import Roam.Data.Lines

/-!
# Routed lines

A stream of lines may carry symbols that select where lines go.  A selection
stays in force until the next one; a line goes where the last selection before
its end says, even if that stands in the middle of the line.  The reader that
works symbol by symbol is compared with the lines cut out of the whole stream.
-/

namespace Roam.Data

variable {Symbol Mode Byte : Type}

/-- What one symbol does. -/
inductive Stroke (Mode Byte : Type) where
  | ends
  | skips
  | selects (mode : Mode)
  | keeps (byte : Byte)

/-- A line format with selections.  A symbol that selects leaves nothing, and a
terminator selects nothing. -/
structure Routing (Symbol Mode Byte : Type) extends LineFormat Symbol Byte where
  selects : Symbol → Option Mode
  keep_of_selects : ∀ symbol mode, selects symbol = some mode → keep symbol = none
  selects_of_ends : ∀ symbol, ends symbol = true → selects symbol = none

/-- The lines that were ended, each with its destination, and what has not ended. -/
structure Reading (Mode Byte : Type) where
  mode : Mode
  routed : List (Mode × List Byte) := []
  unfinished : List Byte := []

namespace Routing

variable (routing : Routing Symbol Mode Byte)

/-- The meaning of a symbol. -/
def stroke (symbol : Symbol) : Stroke Mode Byte :=
  if routing.ends symbol then .ends
  else match routing.selects symbol with
    | some mode => .selects mode
    | none =>
        match routing.keep symbol with
        | some byte => .keeps byte
        | none => .skips

/-! ## Symbol by symbol -/

/-- Take in one symbol. -/
def take (reading : Reading Mode Byte) (symbol : Symbol) : Reading Mode Byte :=
  match routing.stroke symbol with
  | .ends =>
      if reading.unfinished.isEmpty then reading
      else ⟨reading.mode, reading.routed ++ [(reading.mode, reading.unfinished)], []⟩
  | .skips => reading
  | .selects mode => { reading with mode := mode }
  | .keeps byte => { reading with unfinished := reading.unfinished ++ [byte] }

def readOn (reading : Reading Mode Byte) (symbols : List Symbol) : Reading Mode Byte :=
  symbols.foldl routing.take reading

/-- Read a stream from its beginning, with a selection already made. -/
def read (initial : Mode) (stream : List Symbol) : Reading Mode Byte :=
  routing.readOn ⟨initial, [], []⟩ stream

@[simp]
theorem read_nil (initial : Mode) : routing.read initial [] = ⟨initial, [], []⟩ := rfl

variable {routing} in
theorem take_of_ends {symbol : Symbol} (ends : routing.ends symbol = true)
    (reading : Reading Mode Byte) :
    routing.take reading symbol =
      if reading.unfinished.isEmpty then reading
      else ⟨reading.mode, reading.routed ++ [(reading.mode, reading.unfinished)], []⟩ := by
  simp [take, stroke, ends]

variable {routing} in
theorem take_of_goes {symbol : Symbol} (goes : routing.ends symbol = false)
    (reading : Reading Mode Byte) :
    routing.take reading symbol =
      ⟨(routing.selects symbol).getD reading.mode, reading.routed,
        reading.unfinished ++ (routing.keep symbol).toList⟩ := by
  cases selected : routing.selects symbol with
  | some mode => simp [take, stroke, goes, selected, routing.keep_of_selects symbol mode selected]
  | none => cases kept : routing.keep symbol <;> simp [take, stroke, goes, selected, kept]

theorem read_append_singleton (initial : Mode) (stream : List Symbol) (symbol : Symbol) :
    routing.read initial (stream ++ [symbol]) = routing.take (routing.read initial stream) symbol :=
  List.foldl_concat routing.take _ symbol stream

/-- A line that has been ended keeps its destination. -/
theorem routed_prefix (initial : Mode) (front back : List Symbol) :
    (routing.read initial front).routed <+: (routing.read initial (front ++ back)).routed := by
  induction back using List.reverseRecOn with
  | nil => rw [List.append_nil]
  | append_singleton back symbol ih =>
      rw [← List.append_assoc, read_append_singleton]
      refine ih.trans ?_
      cases ends : routing.ends symbol with
      | true =>
          rw [take_of_ends ends]
          split
          · exact List.prefix_refl _
          · exact List.prefix_append _ _
      | false => rw [take_of_goes ends]

/-- Without its destinations a reading is the assembly of the lines. -/
theorem assemble_eq (initial : Mode) (stream : List Symbol) :
    routing.assemble stream =
      ⟨(routing.read initial stream).routed.map Prod.snd,
        (routing.read initial stream).unfinished⟩ := by
  induction stream using List.reverseRecOn with
  | nil => rfl
  | append_singleton front symbol ih =>
      rw [LineFormat.assemble_append, read_append_singleton, ih]
      show routing.feed _ symbol = _
      unfold LineFormat.feed
      cases ends : routing.ends symbol with
      | true =>
          rw [take_of_ends ends]
          simp only [↓reduceIte]
          split
          · rfl
          · rw [List.map_append]
            rfl
      | false => rw [take_of_goes ends]; rfl

/-! ## The lines of the whole stream -/

/-- The ended lines of a stream, each behind all that was typed before its end. -/
def endedLines (ends : Symbol → Bool) (typed line : List Symbol) :
    List Symbol → List (List Symbol × List Symbol)
  | [] => []
  | symbol :: rest =>
      if ends symbol then (typed, line) :: endedLines ends (typed ++ [symbol]) [] rest
      else endedLines ends (typed ++ [symbol]) (line ++ [symbol]) rest

/-- The last selection made in what was typed. -/
def selection (initial : Mode) (typed : List Symbol) : Mode :=
  (typed.filterMap routing.selects).getLast?.getD initial

/-- The bytes a line leaves. -/
def payload (line : List Symbol) : List Byte := line.filterMap routing.keep

/-- All bytes of the ended lines that go to one destination. -/
def destined [DecidableEq Mode] (initial destination : Mode) (stream : List Symbol) : List Byte :=
  (endedLines routing.ends [] [] stream).flatMap fun (typed, line) =>
    if routing.selection initial typed = destination then routing.payload line else []

variable {routing}

theorem selection_append_singleton (initial : Mode) (typed : List Symbol) (symbol : Symbol) :
    routing.selection initial (typed ++ [symbol]) =
      (routing.selects symbol).getD (routing.selection initial typed) := by
  unfold selection
  rw [List.filterMap_append]
  cases selected : routing.selects symbol <;> simp [selected]

theorem payload_append_singleton (line : List Symbol) (symbol : Symbol) :
    routing.payload (line ++ [symbol]) = routing.payload line ++ (routing.keep symbol).toList := by
  unfold payload
  rw [List.filterMap_append]
  cases kept : routing.keep symbol <;> simp [kept]

end Routing

/-- The bytes of a reading that go to one destination. -/
def Reading.to [DecidableEq Mode] (reading : Reading Mode Byte) (destination : Mode) : List Byte :=
  reading.routed.flatMap fun (mode, line) => if mode = destination then line else []

namespace Routing

variable {routing : Routing Symbol Mode Byte} [DecidableEq Mode]

/-- Reading on finds the lines of what follows. -/
theorem readOn_to (initial destination : Mode) (symbols typed line : List Symbol)
    (reading : Reading Mode Byte) (mode : reading.mode = routing.selection initial typed)
    (unfinished : reading.unfinished = routing.payload line) :
    (routing.readOn reading symbols).to destination =
      reading.to destination ++
        (endedLines routing.ends typed line symbols).flatMap fun (typed, line) =>
          if routing.selection initial typed = destination then routing.payload line else [] := by
  induction symbols generalizing typed line reading with
  | nil => exact (List.append_nil _).symm
  | cons symbol rest ih =>
      have selected := routing.selection_append_singleton initial typed symbol
      show (routing.readOn (routing.take reading symbol) rest).to destination = _
      unfold endedLines
      cases ends : routing.ends symbol with
      | true =>
          rw [routing.selects_of_ends symbol ends, Option.getD_none] at selected
          rw [take_of_ends ends]
          split
          · rename_i empty
            have nothing := List.isEmpty_iff.1 empty
            rw [ih (typed ++ [symbol]) [] reading (mode.trans selected.symm) nothing]
            simp [← unfinished, nothing]
          · rw [ih (typed ++ [symbol]) [] ⟨_, _, []⟩ (mode.trans selected.symm) rfl]
            simp [Reading.to, mode, unfinished]
      | false =>
          rw [take_of_goes ends]
          have moded : (routing.selects symbol).getD reading.mode =
              routing.selection initial (typed ++ [symbol]) := by rw [mode, selected]
          have kept : reading.unfinished ++ (routing.keep symbol).toList =
              routing.payload (line ++ [symbol]) := by
            rw [payload_append_singleton, unfinished]
          exact ih (typed ++ [symbol]) (line ++ [symbol]) ⟨_, _, _⟩ moded kept

/-- Reading a stream symbol by symbol sends to each destination the lines the
whole stream has for it. -/
theorem read_to (initial destination : Mode) (stream : List Symbol) :
    (routing.read initial stream).to destination =
      routing.destined initial destination stream :=
  readOn_to initial destination stream [] [] ⟨initial, [], []⟩ rfl rfl

end Routing

end Roam.Data
