import Stencil.Syntax.Parse

/-!
# How block tags nest

The block tags of a template (`if`, `elsif`, `else`, `end` and `for`) nest as the grammar

```
B := 'if' B* ('elsif' B*)* ['else' B*] 'end' | 'for' B* 'end'
```

says, taken as a sequence `B*`. `Blocks`, `Block` and `IfTail` are that grammar over the
keyword tokens of the block tags. `scanBlocks` reads the keywords left to right, one
`stepBlocks` at a time, keeping the blocks open so far, and stops at the first keyword
out of place, or at the end inside an open block, with the error the parser raises there.

Main statement (`scanBlocks_eq_ok_iff`): the scan that starts with no block open gets
through exactly the keyword sequences of `B*`. One way, a sequence of `B*` in front of
the rest is passed over without a trace (`Blocks.scanBlocks_append`); the other way, what
a scan gets through closes the blocks open at its start (`Completes`). Every error of the
scan is an unbalanced block (`scanBlocks_errorClass`).
-/

namespace Stencil

/-- A block open at a point of the scan, with its keyword: an `if`, and whether its
`else` has been read, or a `for`. -/
inductive OpenBlock where
  | ifBlock (keyword : Token) (afterElse : Bool)
  | forBlock (keyword : Token)

namespace OpenBlock

/-- The keyword that opened the block. -/
def keyword : OpenBlock → Token
  | .ifBlock k _ => k
  | .forBlock k => k

/-- The construct of the block, as the messages name it. -/
def construct : OpenBlock → String
  | .ifBlock _ _ => "if"
  | .forBlock _ => "for"

/-- The error of a text that ends inside the block: at its keyword, naming its
construct. -/
def unclosed (src : ParseSource) (b : OpenBlock) : TemplateError :=
  .at_ (.unclosedBlock b.construct b.keyword.span.start) b.keyword.span (src.lineOf b.keyword.span)

end OpenBlock

/-- The error of a keyword `k` that cannot stand where the blocks `opened` are open,
innermost first: with none open it closes nothing, and an `elsif` or `else` can neither
close the body of a `for` nor follow the `else` of an `if`. The error is at the keyword
and names it. -/
def misplaced (src : ParseSource) (k : Token) : List OpenBlock → TemplateError
  | [] => .at_ (.strayCloser k.lexeme k.span.start) k.span (src.lineOf k.span)
  | .forBlock f :: _ =>
    .at_ (.insideFor k.lexeme k.span.start f.span.start) k.span (src.lineOf k.span)
  | .ifBlock i _ :: _ =>
    .at_ (.afterElse k.lexeme k.span.start i.span.start) k.span (src.lineOf k.span)

/-- One keyword read with the blocks `opened` open: `if` and `for` open a block, `end`
closes the innermost, `elsif` leaves an `if` before its `else` as it is and `else` takes
it past its `else`. Anything else is out of place. -/
def stepBlocks (src : ParseSource) (k : Token) (opened : List OpenBlock) :
    Except TemplateError (List OpenBlock) :=
  match k.kind, opened with
  | .ifKeyword, _ => .ok (.ifBlock k false :: opened)
  | .forKeyword, _ => .ok (.forBlock k :: opened)
  | .endKeyword, _ :: outer => .ok outer
  | .elsifKeyword, .ifBlock i false :: outer => .ok (.ifBlock i false :: outer)
  | .elseKeyword, .ifBlock i false :: outer => .ok (.ifBlock i true :: outer)
  | _, _ => .error (misplaced src k opened)

/-- Read block keywords left to right from the blocks `opened`: the first keyword out of
place, or the end with a block still open, is an error, at the innermost open block. -/
def scanBlocks (src : ParseSource) : List OpenBlock → List Token → Except TemplateError Unit
  | [], [] => .ok ()
  | b :: _, [] => .error (b.unclosed src)
  | opened, k :: rest =>
    match stepBlocks src k opened with
    | .ok next => scanBlocks src next rest
    | .error e => .error e

mutual

/-- `B*`: whole blocks, one after the other. -/
inductive Blocks : List Token → Prop
  | nil : Blocks []
  | cons {xs ys : List Token} : Block xs → Blocks ys → Blocks (xs ++ ys)

/-- `B := 'if' B* ('elsif' B*)* ['else' B*] 'end' | 'for' B* 'end'` -/
inductive Block : List Token → Prop
  | ifBlock {i : Token} {body tail : List Token} :
      i.kind = .ifKeyword → Blocks body → IfTail tail → Block (i :: (body ++ tail))
  | forBlock {f e : Token} {body : List Token} :
      f.kind = .forKeyword → Blocks body → e.kind = .endKeyword → Block (f :: (body ++ [e]))

/-- `('elsif' B*)* ['else' B*] 'end'`: the rest of an `if` block after its first body. -/
inductive IfTail : List Token → Prop
  | elsif {k : Token} {body tail : List Token} :
      k.kind = .elsifKeyword → Blocks body → IfTail tail → IfTail (k :: (body ++ tail))
  | otherwise {k e : Token} {body : List Token} :
      k.kind = .elseKeyword → Blocks body → e.kind = .endKeyword → IfTail (k :: (body ++ [e]))
  | close {e : Token} : e.kind = .endKeyword → IfTail [e]

end

section Scan

variable (src : ParseSource)

theorem scanBlocks_cons (k : Token) (opened : List OpenBlock) (rest : List Token) :
    scanBlocks src opened (k :: rest) =
      match stepBlocks src k opened with
      | .ok next => scanBlocks src next rest
      | .error e => .error e := by
  cases opened <;> rfl

/-- A keyword that the scan takes leaves it where the step leaves it. -/
theorem scanBlocks_step {k : Token} {opened next : List OpenBlock}
    (step : stepBlocks src k opened = .ok next) (rest : List Token) :
    scanBlocks src opened (k :: rest) = scanBlocks src next rest := by
  rw [scanBlocks_cons, step]

theorem stepBlocks_if {k : Token} (isIf : k.kind = .ifKeyword) (opened : List OpenBlock) :
    stepBlocks src k opened = .ok (.ifBlock k false :: opened) := by
  simp [stepBlocks, isIf]

theorem stepBlocks_for {k : Token} (isFor : k.kind = .forKeyword) (opened : List OpenBlock) :
    stepBlocks src k opened = .ok (.forBlock k :: opened) := by
  simp [stepBlocks, isFor]

theorem stepBlocks_end {k : Token} (isEnd : k.kind = .endKeyword) (b : OpenBlock)
    (outer : List OpenBlock) : stepBlocks src k (b :: outer) = .ok outer := by
  simp [stepBlocks, isEnd]

theorem stepBlocks_elsif {k : Token} (isElsif : k.kind = .elsifKeyword) (i : Token)
    (outer : List OpenBlock) :
    stepBlocks src k (.ifBlock i false :: outer) = .ok (.ifBlock i false :: outer) := by
  simp [stepBlocks, isElsif]

theorem stepBlocks_else {k : Token} (isElse : k.kind = .elseKeyword) (i : Token)
    (outer : List OpenBlock) :
    stepBlocks src k (.ifBlock i false :: outer) = .ok (.ifBlock i true :: outer) := by
  simp [stepBlocks, isElse]

/-- An `elsif` or an `else` cannot close the body of a `for`. -/
theorem stepBlocks_insideFor {k : Token}
    (continues : k.kind = .elsifKeyword ∨ k.kind = .elseKeyword) (f : Token)
    (outer : List OpenBlock) :
    stepBlocks src k (.forBlock f :: outer) = .error (misplaced src k (.forBlock f :: outer)) := by
  rcases continues with kind | kind <;> simp [stepBlocks, kind]

/-- Nor can it follow the `else` of an `if`. -/
theorem stepBlocks_afterElse {k : Token}
    (continues : k.kind = .elsifKeyword ∨ k.kind = .elseKeyword) (i : Token)
    (outer : List OpenBlock) :
    stepBlocks src k (.ifBlock i true :: outer) =
      .error (misplaced src k (.ifBlock i true :: outer)) := by
  rcases continues with kind | kind <;> simp [stepBlocks, kind]

/-- With no block open, a keyword other than `if` and `for` closes nothing. -/
theorem stepBlocks_stray {k : Token} (notIf : k.kind ≠ .ifKeyword)
    (notFor : k.kind ≠ .forKeyword) :
    stepBlocks src k [] = .error (misplaced src k []) := by
  unfold stepBlocks
  split <;> simp_all

theorem misplaced_errorClass (k : Token) (opened : List OpenBlock) :
    (misplaced src k opened).fault.errorClass = .unbalancedBlock := by
  match opened with
  | [] => rfl
  | .forBlock _ :: _ => rfl
  | .ifBlock _ _ :: _ => rfl

/-- Every error of the scan is an unbalanced block. -/
theorem scanBlocks_errorClass {opened : List OpenBlock} {tags : List Token} {e : TemplateError}
    (h : scanBlocks src opened tags = .error e) : e.fault.errorClass = .unbalancedBlock := by
  induction tags generalizing opened with
  | nil =>
    cases opened with
    | nil => cases h
    | cons b outer =>
      cases h
      rfl
  | cons k rest ih =>
    rw [scanBlocks_cons] at h
    cases step : stepBlocks src k opened with
    | ok next =>
      rw [step] at h
      exact ih h
    | error e' =>
      rw [step] at h
      cases h
      -- a step fails only with `misplaced`
      unfold stepBlocks at step
      split at step <;> cases step
      exact misplaced_errorClass src k _

/-! ## Sequences of `B*` are passed over -/

mutual

theorem Blocks.scanBlocks_append {xs : List Token} :
    Blocks xs → ∀ opened rest, scanBlocks src opened (xs ++ rest) = scanBlocks src opened rest
  | .nil, _, _ => rfl
  | .cons first others, opened, rest => by
    rw [List.append_assoc, first.scanBlocks_append, others.scanBlocks_append]

theorem Block.scanBlocks_append {xs : List Token} :
    Block xs → ∀ opened rest, scanBlocks src opened (xs ++ rest) = scanBlocks src opened rest
  | .ifBlock isIf body tail, opened, rest => by
    rw [List.cons_append, List.append_assoc, scanBlocks_step src (stepBlocks_if src isIf opened),
      body.scanBlocks_append, tail.scanBlocks_append]
  | .forBlock isFor body isEnd, opened, rest => by
    rw [List.cons_append, List.append_assoc, scanBlocks_step src (stepBlocks_for src isFor opened),
      body.scanBlocks_append, List.singleton_append,
      scanBlocks_step src (stepBlocks_end src isEnd _ opened)]

theorem IfTail.scanBlocks_append {xs : List Token} :
    IfTail xs → ∀ i opened rest,
      scanBlocks src (.ifBlock i false :: opened) (xs ++ rest) = scanBlocks src opened rest
  | .elsif isElsif body tail, i, opened, rest => by
    rw [List.cons_append, List.append_assoc,
      scanBlocks_step src (stepBlocks_elsif src isElsif i opened), body.scanBlocks_append,
      tail.scanBlocks_append]
  | .otherwise isElse body isEnd, i, opened, rest => by
    rw [List.cons_append, List.append_assoc,
      scanBlocks_step src (stepBlocks_else src isElse i opened), body.scanBlocks_append,
      List.singleton_append, scanBlocks_step src (stepBlocks_end src isEnd _ opened)]
  | .close isEnd, i, opened, rest => by
    rw [List.singleton_append, scanBlocks_step src (stepBlocks_end src isEnd _ opened)]

end

/-! ## What the scan gets through is `B*` -/

/-- What closes an open block: for an `if` before its `else`, the rest of its body and
of the block; past its `else`, or for a `for`, the rest of its body and `end`. -/
def OpenBlock.Closes : OpenBlock → List Token → Prop
  | .ifBlock _ false, xs => ∃ body tail, xs = body ++ tail ∧ Blocks body ∧ IfTail tail
  | .ifBlock _ true, xs => ∃ body e, xs = body ++ [e] ∧ Blocks body ∧ e.kind = .endKeyword
  | .forBlock _, xs => ∃ body e, xs = body ++ [e] ∧ Blocks body ∧ e.kind = .endKeyword

/-- Keywords that close the open blocks `opened`, innermost first, and then are `B*`. -/
def Completes : List OpenBlock → List Token → Prop
  | [], xs => Blocks xs
  | b :: outer, xs => ∃ ys zs, xs = ys ++ zs ∧ b.Closes ys ∧ Completes outer zs

/-- A whole block in front of what closes an open block is part of its body. -/
theorem OpenBlock.Closes.block {b : OpenBlock} {x ys : List Token} (first : Block x)
    (closes : b.Closes ys) : b.Closes (x ++ ys) := by
  match b, closes with
  | .ifBlock _ false, ⟨body, tail, split, others, rest⟩ =>
    exact ⟨x ++ body, tail, by rw [split, List.append_assoc], .cons first others, rest⟩
  | .ifBlock _ true, ⟨body, e, split, others, isEnd⟩ =>
    exact ⟨x ++ body, e, by rw [split, List.append_assoc], .cons first others, isEnd⟩
  | .forBlock _, ⟨body, e, split, others, isEnd⟩ =>
    exact ⟨x ++ body, e, by rw [split, List.append_assoc], .cons first others, isEnd⟩

/-- A whole block in front of keywords that complete the open blocks completes them. -/
theorem Completes.block {opened : List OpenBlock} {x xs : List Token} (first : Block x)
    (completes : Completes opened xs) : Completes opened (x ++ xs) := by
  match opened, completes with
  | [], others => exact .cons first others
  | b :: outer, ⟨ys, zs, split, closes, rest⟩ =>
    exact ⟨x ++ ys, zs, by rw [split, List.append_assoc], closes.block first, rest⟩

/-- One step back: keywords that complete the blocks open after a keyword complete,
with that keyword in front, the blocks open before it. -/
theorem Completes.step {k : Token} {opened next : List OpenBlock} {rest : List Token}
    (step : stepBlocks src k opened = .ok next) (completes : Completes next rest) :
    Completes opened (k :: rest) := by
  unfold stepBlocks at step
  split at step
  next isIf =>
    -- `k` opens an `if`: what closes it makes, with `k`, a whole block
    cases step
    obtain ⟨ys, zs, rfl, ⟨body, tail, rfl, others, ifTail⟩, rest⟩ := completes
    simpa using rest.block (.ifBlock isIf others ifTail)
  next isFor =>
    cases step
    obtain ⟨ys, zs, rfl, ⟨body, e, rfl, others, isEnd⟩, rest⟩ := completes
    simpa using rest.block (.forBlock isFor others isEnd)
  next b outer isEnd =>
    -- `k` closes the innermost block
    cases step
    refine ⟨[k], rest, rfl, ?_, completes⟩
    match b with
    | .ifBlock _ false => exact ⟨[], [k], rfl, .nil, .close isEnd⟩
    | .ifBlock _ true => exact ⟨[], k, rfl, .nil, isEnd⟩
    | .forBlock _ => exact ⟨[], k, rfl, .nil, isEnd⟩
  next i outer isElsif =>
    cases step
    obtain ⟨ys, zs, rfl, ⟨body, tail, rfl, others, ifTail⟩, rest⟩ := completes
    exact ⟨k :: (body ++ tail), zs, rfl, ⟨[], _, rfl, .nil, .elsif isElsif others ifTail⟩, rest⟩
  next i outer isElse =>
    cases step
    obtain ⟨ys, zs, rfl, ⟨body, e, rfl, others, isEnd⟩, rest⟩ := completes
    exact ⟨k :: (body ++ [e]), zs, rfl, ⟨[], _, rfl, .nil, .otherwise isElse others isEnd⟩, rest⟩
  next => cases step

/-- What a scan gets through from the blocks `opened` completes them. -/
theorem scanBlocks_completes {opened : List OpenBlock} {tags : List Token}
    (h : scanBlocks src opened tags = .ok ()) : Completes opened tags := by
  induction tags generalizing opened with
  | nil =>
    cases opened with
    | nil => exact .nil
    | cons b outer => cases h
  | cons k rest ih =>
    rw [scanBlocks_cons] at h
    cases step : stepBlocks src k opened with
    | ok next =>
      rw [step] at h
      exact Completes.step src step (ih h)
    | error e =>
      rw [step] at h
      cases h

/-- The scan from no open block gets through exactly the keyword sequences of `B*`. -/
theorem scanBlocks_eq_ok_iff (tags : List Token) :
    scanBlocks src [] tags = .ok () ↔ Blocks tags := by
  constructor
  · exact scanBlocks_completes src
  · intro blocks
    have passed := blocks.scanBlocks_append src [] []
    rw [List.append_nil] at passed
    rw [passed]
    rfl

end Scan

end Stencil
