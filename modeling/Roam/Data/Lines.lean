import Mathlib.Data.List.Infix

/-!
# Lines of a stream

A stream of symbols is cut into lines by terminators; every other symbol leaves
at most one byte in the line it stands in.  Empty lines are not counted.  The
lemmas compare lines with the plain concatenation of all bytes that were left.
-/

namespace Roam.Data

variable {Symbol Byte : Type}

/-- Which symbols end a line, and what the others leave in it. -/
structure LineFormat (Symbol Byte : Type) where
  ends : Symbol → Bool
  keep : Symbol → Option Byte

/-- The non-empty lines that were ended, and the line that was not. -/
structure Assembly (Byte : Type) where
  completed : List (List Byte) := []
  unfinished : List Byte := []

namespace LineFormat

variable (format : LineFormat Symbol Byte)

/-- Take in one symbol. -/
def feed (assembly : Assembly Byte) (symbol : Symbol) : Assembly Byte :=
  if format.ends symbol then
    if assembly.unfinished.isEmpty then assembly
    else ⟨assembly.completed ++ [assembly.unfinished], []⟩
  else { assembly with unfinished := assembly.unfinished ++ (format.keep symbol).toList }

/-- Take in a stretch of symbols. -/
def feedAll (assembly : Assembly Byte) (symbols : List Symbol) : Assembly Byte :=
  symbols.foldl format.feed assembly

def assemble (stream : List Symbol) : Assembly Byte :=
  format.feedAll {} stream

/-- The bytes left by a stretch of symbols, with all lines run together. -/
def left (symbols : List Symbol) : List Byte :=
  symbols.flatMap fun symbol =>
    if format.ends symbol then [] else (format.keep symbol).toList

/-- The lines a stretch of symbols completes after an earlier stream. -/
def fresh (before symbols : List Symbol) : List (List Byte) :=
  (format.feedAll ⟨[], (format.assemble before).unfinished⟩ symbols).completed

/-- No line of the stream ever grows beyond the limit. -/
def Fits (limit : Nat) (stream : List Symbol) : Prop :=
  ∀ front, front <+: stream → (format.assemble front).unfinished.length ≤ limit

theorem assemble_append (front back : List Symbol) :
    format.assemble (front ++ back) = format.feedAll (format.assemble front) back :=
  List.foldl_append

theorem unfinished_append_of_ends {symbol : Symbol} (front : List Symbol)
    (ends : format.ends symbol = true) :
    (format.assemble (front ++ [symbol])).unfinished = [] := by
  rw [assemble_append]
  show (format.feed _ symbol).unfinished = []
  unfold feed
  simp only [ends, ↓reduceIte]
  split
  · exact List.isEmpty_iff.1 ‹_›
  · rfl

/-- Lines completed earlier have no influence on what follows. -/
theorem feed_completed (assembly : Assembly Byte) (symbol : Symbol) :
    format.feed assembly symbol =
      ⟨assembly.completed ++ (format.feed ⟨[], assembly.unfinished⟩ symbol).completed,
        (format.feed ⟨[], assembly.unfinished⟩ symbol).unfinished⟩ := by
  unfold feed
  split
  · split <;> simp
  · simp

theorem feedAll_completed (assembly : Assembly Byte) (symbols : List Symbol) :
    format.feedAll assembly symbols =
      ⟨assembly.completed ++ (format.feedAll ⟨[], assembly.unfinished⟩ symbols).completed,
        (format.feedAll ⟨[], assembly.unfinished⟩ symbols).unfinished⟩ := by
  induction symbols generalizing assembly with
  | nil => simp [feedAll]
  | cons symbol rest ih =>
      have first := ih (format.feed assembly symbol)
      have second := ih (format.feed ⟨[], assembly.unfinished⟩ symbol)
      have shifted := format.feed_completed assembly symbol
      simp only [feedAll, List.foldl_cons] at first second ⊢
      rw [first, second]
      simp only [shifted, List.append_assoc]

theorem assemble_append_eq (before symbols : List Symbol) :
    format.assemble (before ++ symbols) =
      ⟨(format.assemble before).completed ++ format.fresh before symbols,
        (format.feedAll ⟨[], (format.assemble before).unfinished⟩ symbols).unfinished⟩ := by
  rw [assemble_append, feedAll_completed]
  rfl

/-- The lines of two stretches are those of the first and then those of the second. -/
theorem fresh_append (before front back : List Symbol) :
    format.fresh before (front ++ back) =
      format.fresh before front ++ format.fresh (before ++ front) back := by
  have whole := format.assemble_append_eq before (front ++ back)
  have first := format.assemble_append_eq before front
  have second := format.assemble_append_eq (before ++ front) back
  rw [← List.append_assoc] at whole
  have completed := congrArg Assembly.completed (whole.symm.trans second)
  rw [first] at completed
  simp only [List.append_assoc] at completed
  exact List.append_cancel_left completed

/-- A stream no longer than the limit has no line beyond it. -/
theorem fits_of_length_le {limit : Nat} {stream : List Symbol} (short : stream.length ≤ limit) :
    format.Fits limit stream := by
  have grows : ∀ (symbols : List Symbol) (assembly : Assembly Byte),
      (format.feedAll assembly symbols).unfinished.length ≤
        assembly.unfinished.length + symbols.length := by
    intro symbols
    induction symbols with
    | nil => exact fun assembly => Nat.le_refl _
    | cons symbol rest ih =>
        intro assembly
        refine (ih (format.feed assembly symbol)).trans ?_
        have once : (format.feed assembly symbol).unfinished.length ≤
            assembly.unfinished.length + 1 := by
          unfold feed
          split
          · split <;> simp
          · cases format.keep symbol <;> simp
        rw [List.length_cons]
        omega
  intro front shorter
  have bound := grows front {}
  have length := shorter.length_le
  simp only [List.length_nil] at bound
  exact bound.trans (by omega)

variable {format}

theorem Fits.front {limit : Nat} {front back : List Symbol}
    (fits : format.Fits limit (front ++ back)) : format.Fits limit front :=
  fun inner shorter => fits inner (shorter.trans (List.prefix_append front back))

theorem Fits.mono {limit more : Nat} {stream : List Symbol} (fits : format.Fits limit stream)
    (le : limit ≤ more) : format.Fits more stream :=
  fun front shorter => (fits front shorter).trans le

/-- A stream fits as long as no symbol makes its line too long. -/
theorem fits_append_singleton {limit : Nat} {stream : List Symbol} {symbol : Symbol} :
    format.Fits limit (stream ++ [symbol]) ↔ format.Fits limit stream ∧
      (format.assemble (stream ++ [symbol])).unfinished.length ≤ limit := by
  constructor
  · exact fun fits => ⟨fits.front, fits _ (List.prefix_refl _)⟩
  · rintro ⟨fits, last⟩ front shorter
    rcases List.prefix_concat_iff.1 shorter with rfl | inner
    · exact last
    · exact fits front inner

/-- While no line is completed, the unfinished line is all that was left. -/
theorem unfinished_of_completed_nil {unfinished : List Byte} {symbols : List Symbol}
    (none : (format.feedAll ⟨[], unfinished⟩ symbols).completed = []) :
    (format.feedAll ⟨[], unfinished⟩ symbols).unfinished = unfinished ++ format.left symbols := by
  induction symbols generalizing unfinished with
  | nil => simp [feedAll, left]
  | cons symbol rest ih =>
      have shifted := format.feedAll_completed
        (format.feed ⟨[], unfinished⟩ symbol) rest
      have same : format.feedAll ⟨[], unfinished⟩ (symbol :: rest) =
          format.feedAll (format.feed ⟨[], unfinished⟩ symbol) rest := rfl
      rw [same, shifted] at none ⊢
      obtain ⟨before, after⟩ := List.append_eq_nil_iff.1 none
      rw [ih after]
      cases ends : format.ends symbol with
      | false => simp [feed, left, ends]
      | true =>
          have empty : unfinished = [] := by
            by_contra nonempty
            simp [feed, ends, nonempty] at before
          simp [feed, left, ends, empty]

/-- One completed line with nothing after it is all that was left. -/
theorem completed_of_unfinished_nil {unfinished line : List Byte} {symbols : List Symbol}
    (one : (format.feedAll ⟨[], unfinished⟩ symbols).completed = [line])
    (closed : (format.feedAll ⟨[], unfinished⟩ symbols).unfinished = []) :
    line = unfinished ++ format.left symbols := by
  induction symbols generalizing unfinished with
  | nil => simp [feedAll] at one
  | cons symbol rest ih =>
      have shifted := format.feedAll_completed
        (format.feed ⟨[], unfinished⟩ symbol) rest
      have same : format.feedAll ⟨[], unfinished⟩ (symbol :: rest) =
          format.feedAll (format.feed ⟨[], unfinished⟩ symbol) rest := rfl
      rw [same, shifted] at one closed
      cases ends : format.ends symbol with
      | false =>
          simp only [feed, ends, Bool.false_eq_true, ↓reduceIte, List.nil_append] at one closed
          rw [ih one closed]
          simp [left, ends]
      | true =>
          by_cases empty : unfinished = []
          · simp only [feed, ends, ↓reduceIte, empty, List.isEmpty_nil, List.nil_append]
              at one closed
            rw [ih one closed, empty]
            simp [left, ends]
          · -- the line is the one this terminator ends, so nothing may be left behind it
            simp only [feed, ends, ↓reduceIte, List.isEmpty_iff, empty, List.nil_append,
              List.singleton_append, List.cons.injEq] at one closed
            have nothing := unfinished_of_completed_nil one.2
            rw [closed, List.nil_append] at nothing
            simp [left, ends, ← one.1]
            simpa [left] using nothing.symm

/-- A stretch that leaves nothing after a line end changes nothing. -/
theorem feedAll_of_left_nil {completed : List (List Byte)} {symbols : List Symbol}
    (nothing : format.left symbols = []) :
    format.feedAll ⟨completed, []⟩ symbols = ⟨completed, []⟩ := by
  induction symbols with
  | nil => rfl
  | cons symbol rest ih =>
      rw [left, List.flatMap_cons, List.append_eq_nil_iff] at nothing
      have first : format.feed ⟨completed, []⟩ symbol = ⟨completed, []⟩ := by
        cases ends : format.ends symbol with
        | true => simp [feed, ends]
        | false => simpa [feed, ends] using nothing.1
      rw [feedAll, List.foldl_cons, first]
      exact ih nothing.2

/-- A single symbol completes at most one line, and only by ending it. -/
theorem length_fresh_singleton (before : List Symbol) (symbol : Symbol) :
    (format.fresh before [symbol]).length ≤ if format.ends symbol then 1 else 0 := by
  show (format.feed ⟨[], (format.assemble before).unfinished⟩ symbol).completed.length ≤ _
  unfold feed
  split
  · split <;> simp
  · exact Nat.le_refl 0

/-- Every completed line was the unfinished one at some point, and was not empty. -/
theorem exists_prefix_of_mem_completed {symbols : List Symbol} {assembly : Assembly Byte}
    {line : List Byte} (member : line ∈ (format.feedAll assembly symbols).completed) :
    line ∈ assembly.completed ∨ line ≠ [] ∧
      ∃ front, front <+: symbols ∧ (format.feedAll assembly front).unfinished = line := by
  induction symbols using List.reverseRecOn with
  | nil => exact .inl member
  | append_singleton front symbol ih =>
      have whole : format.feedAll assembly (front ++ [symbol]) =
          format.feed (format.feedAll assembly front) symbol := by
        simp [feedAll]
      have extended : ∀ {line}, (line ∈ assembly.completed ∨ line ≠ [] ∧
          ∃ inner, inner <+: front ∧ (format.feedAll assembly inner).unfinished = line) →
          line ∈ assembly.completed ∨ line ≠ [] ∧ ∃ inner, inner <+: front ++ [symbol] ∧
            (format.feedAll assembly inner).unfinished = line := by
        rintro line (old | ⟨nonempty, inner, shorter, same⟩)
        · exact .inl old
        · exact .inr ⟨nonempty, inner, shorter.trans (List.prefix_append _ _), same⟩
      rw [whole] at member
      unfold feed at member
      split at member
      · split at member
        · exact extended (ih member)
        · rcases List.mem_append.1 member with old | new
          · exact extended (ih old)
          · rename_i nonempty
            rw [List.mem_singleton] at new
            rw [List.isEmpty_iff] at nonempty
            exact .inr ⟨new ▸ nonempty, front, List.prefix_append _ _, new.symm⟩
      · exact extended (ih member)

/-- Behind a stream that leaves nothing unfinished the lines begin anew. -/
theorem assemble_append_of_closed {front : List Symbol}
    (closed : (format.assemble front).unfinished = []) (back : List Symbol) :
    format.assemble (front ++ back) =
      ⟨(format.assemble front).completed ++ (format.assemble back).completed,
        (format.assemble back).unfinished⟩ := by
  rw [assemble_append_eq]
  unfold fresh
  rw [closed]
  rfl

/-- Symbols that end nothing make the line longer. -/
theorem feedAll_of_goes {symbols : List Symbol} (goes : ∀ symbol ∈ symbols, format.ends symbol = false)
    (assembly : Assembly Byte) :
    format.feedAll assembly symbols =
      { assembly with unfinished := assembly.unfinished ++ symbols.filterMap format.keep } := by
  induction symbols generalizing assembly with
  | nil => simp [feedAll]
  | cons symbol rest ih =>
      obtain ⟨first, later⟩ := List.forall_mem_cons.1 goes
      have fed : format.feed assembly symbol =
          { assembly with unfinished := assembly.unfinished ++ (format.keep symbol).toList } := by
        simp [feed, first]
      show format.feedAll (format.feed assembly symbol) rest = _
      rw [ih later, fed, List.filterMap_cons]
      cases format.keep symbol with
      | none => simp
      | some byte => simp

/-- A line is made of what symbols leave that end nothing. -/
theorem mem_unfinished {stream : List Symbol} {byte : Byte}
    (member : byte ∈ (format.assemble stream).unfinished) :
    ∃ symbol, format.ends symbol = false ∧ format.keep symbol = some byte := by
  induction stream using List.reverseRecOn with
  | nil => exact absurd member List.not_mem_nil
  | append_singleton front symbol ih =>
      rw [assemble_append] at member
      change byte ∈ (format.feed (format.assemble front) symbol).unfinished at member
      unfold feed at member
      split at member
      · split at member
        · exact ih member
        · exact absurd member List.not_mem_nil
      · rename_i goes
        rcases List.mem_append.1 member with old | new
        · exact ih old
        · exact ⟨symbol, Bool.eq_false_iff.2 goes, Option.mem_toList.1 new⟩

end LineFormat

end Roam.Data
