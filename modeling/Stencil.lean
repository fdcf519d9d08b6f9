import Stencil.Text.RangeTable
import Stencil.Text.Letter
import Stencil.Text.Printable
import Stencil.Text.Blank
import Stencil.Text.Digit
import Stencil.Text.CaseTable
import Stencil.Text.Case
import Stencil.Number.Binary
import Stencil.Number.Shortest
import Stencil.Number.Notation
import Stencil.Number.Reading
import Stencil.Source.Location
import Stencil.Diagnostic
import Stencil.Value.Kind
import Stencil.Text.Quoted
import Stencil.Text.Lines
import Stencil.Error
import Stencil.Token
import Stencil.Token.Scan
import Stencil.Syntax
import Stencil.Syntax.Parse
import Stencil.Syntax.Outline
import Stencil.Value.Basic
import Stencil.Value.Host
import Stencil.Value.Method
import Stencil.Value.Access
import Stencil.Config
import Stencil.Render.Collaborators
import Stencil.Render.Bindings
import Stencil.Render.Eval
import Stencil.Partial.Store
import Stencil.Render.Source
import Stencil.Files.Path
import Stencil.Files.CodePage
import Stencil.Files.Registry
import Stencil.Files.CodecError
import Stencil.Files.Multibyte
import Stencil.Files.Multibyte.Big5
import Stencil.Files.Multibyte.Big5hkscs
import Stencil.Files.Multibyte.Cp932
import Stencil.Files.Multibyte.Cp949
import Stencil.Files.Multibyte.Cp950
import Stencil.Files.Multibyte.EucJis2004
import Stencil.Files.Multibyte.EucJisx0213
import Stencil.Files.Multibyte.EucJp
import Stencil.Files.Multibyte.EucKr
import Stencil.Files.Multibyte.Gb18030
import Stencil.Files.Multibyte.Gb2312
import Stencil.Files.Multibyte.Gbk
import Stencil.Files.Multibyte.Johab
import Stencil.Files.Multibyte.ShiftJis
import Stencil.Files.Multibyte.ShiftJis2004
import Stencil.Files.Multibyte.ShiftJisx0213
import Stencil.Files.Punycode
import Stencil.Files.Nameprep.Mapping
import Stencil.Files.Nameprep.Decomposition
import Stencil.Files.Nameprep.Classes
import Stencil.Files.Nameprep
import Stencil.Files.Idna
import Stencil.Files.Iso2022
import Stencil.Files.Hz
import Stencil.Files.Codec
import Stencil.Files.Tree
import Stencil.Files.Loader
import Stencil.Value.JsonText
import Stencil.Cli.Options
import Stencil.Cli.Args
import Stencil.Cli.Run
import Stencil.Main
import Stencil.Proofs.Grammar
import Stencil.Proofs.ParserSound
import Stencil.Proofs.ParserComplete
import Stencil.Proofs.ScanSteps
import Stencil.Proofs.ScanValues
import Stencil.Proofs.ScanTiling
import Stencil.Proofs.ScanShape
import Stencil.Proofs.ParseLayout
import Stencil.Proofs.RenderFrames
import Stencil.Proofs.RenderInduction
import Stencil.Proofs.PartialDepth
import Stencil.Proofs.ErrorSites
import Stencil.Proofs.RenderFailures
import Stencil.Proofs.StoreReuse
import Stencil.Proofs.HostReads
import Stencil.Proofs.BindingSupply
import Stencil.Proofs.UnfoldedParse
import Stencil.Proofs.MinusFold
import Stencil.Proofs.BlockScan
import Stencil.Proofs.BlockParse
import Stencil.Proofs.HostRoundTrip
import Stencil.Proofs.DoubleValue
import Stencil.Proofs.Rounding
import Stencil.Proofs.Equality
import Stencil.Proofs.IntegerRange
import Stencil.Proofs.StoreHistory
import Stencil.Proofs.TupleAccess
import Stencil.Proofs.ScanErrors
import Stencil.Proofs.ParseErrors
import Stencil.Proofs.PunycodeRoundTrip
