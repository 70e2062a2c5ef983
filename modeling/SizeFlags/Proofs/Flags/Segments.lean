import SizeFlags.Proofs.Flags.RoundTrip

set_option autoImplicit false

/-!
# Values that are put together from variables

A value is written as segments: texts that stand for themselves, and references in braces
to variables that are set.  Main statement: the value that a file holds is what the
segments stand for, one behind the other.  Quotes and padding are those of the written
form, since they are taken off before a variable is put in; and what is put in is not read
again, so that it may hold references, quotes and line breaks of its own.
-/

namespace SizeFlags.Flags

/-- A part of a written value. -/
inductive Segment where
  | literal (text : Text) (no_dollar : '$' ∉ text)
  | reference (name : Text) (no_brace : Piece.closingBrace ∉ name)

namespace Segment

/-- How a segment is written. -/
def toText : Segment → Text
  | literal text _ => text
  | reference name _ => '$' :: Piece.openingBrace :: name ++ [Piece.closingBrace]

/-- What a segment stands for where the variable that it refers to is set. -/
inductive StandsFor (valueOf? : Text → Option Text) : Segment → Text → Prop where
  | literal {text : Text} (no_dollar : '$' ∉ text) :
      StandsFor valueOf? (.literal text no_dollar) text
  | reference {name value : Text} (no_brace : Piece.closingBrace ∉ name)
      (set : valueOf? name = some value) : StandsFor valueOf? (.reference name no_brace) value

variable {valueOf? : Text → Option Text}

/-- A segment is expanded to what it stands for, and what is behind it is expanded apart. -/
theorem StandsFor.expand_append {segment : Segment} {value : Text}
    (h : segment.StandsFor valueOf? value) (rest : Text) :
    expand valueOf? (segment.toText ++ rest) = value ++ expand valueOf? rest := by
  cases h with
  | literal no_dollar =>
    rw [toText, expand, Piece.ofText_append_of_no_dollar rest no_dollar, List.flatMap_append,
      List.flatMap_map]
    exact congrArg (· ++ _) (List.flatMap_singleton' _)
  | @reference name _ no_brace set =>
    have hvalue : (Piece.braced name).expand valueOf? = value := by
      rw [Piece.expand, Piece.name?, Option.bind_some, set, Option.getD_some]
    have htext : (Segment.reference name no_brace).toText = (Piece.braced name).toText := rfl
    rw [htext, expand, Piece.ofText_braced_append rest no_brace, List.flatMap_cons, hvalue]
    rfl

theorem expand_toText {segments : List Segment} {values : List Text}
    (h : List.Forall₂ (StandsFor valueOf?) segments values) :
    expand valueOf? (segments.flatMap toText) = values.flatten := by
  induction h with
  | nil => rfl
  | cons hfirst _ ih => rw [List.flatMap_cons, hfirst.expand_append, ih, List.flatten_cons]

end Segment

/-- What a quoted value loses at its ends, a bare one loses too. -/
theorem Quoting.loses_bare (quoting : Quoting) {c : Char} (h : quoting.loses c = true) :
    bare.loses c = true := by
  cases quoting with
  | bare => exact h
  | quotationMarks =>
    simp only [loses, Bool.or_eq_true] at h ⊢
    exact h.elim (fun h => .inl (.inr h)) .inr
  | apostrophes =>
    simp only [loses, Bool.or_eq_true] at h ⊢
    exact .inr h

/-- The keys of the entries on some lines, and their values with variables put in. -/
def rowsOf (valueOf? : Text → Option Text) (lines : List Text) : List (Text × Text) :=
  (lines.filterMap Entry.ofLine?).map fun entry => (entry.key, entry.raw valueOf?)

/-- The line of a file whose value is written as segments, bare or between quotes, has as its
value what the segments stand for, in order, whatever that is. -/
theorem readEntries_of_segments {world : World} {file : Path} {text key : Text}
    {before after : List Text} {segments : List Segment} {values : List Text} (quoting : Quoting)
    (leading trailing : Padding) (hlook : world.look file = .ok (Utf8.encode text))
    (hlines : Text.lines text = before ++ (key ++ '=' :: padded leading
      (quoting.quote ++ segments.flatMap Segment.toText ++ quoting.quote) trailing) :: after)
    (hkey : '=' ∉ key) (hcomment : (Text.strip key).head? ≠ some '#')
    (htrimmed : Text.Trimmed Quoting.bare.loses (segments.flatMap Segment.toText))
    (hvalues : List.Forall₂ (Segment.StandsFor world.valueOf?) segments values) :
    readEntries world file = .ok (rowsOf world.valueOf? before ++
      (Text.strip key, values.flatten) :: rowsOf world.valueOf? after) := by
  have hinner : Text.Trimmed quoting.loses (segments.flatMap Segment.toText) :=
    htrimmed.of_imp fun _ => quoting.loses_bare
  have hline := Entry.ofLine?_append_equals (padded leading
    (quoting.quote ++ segments.flatMap Segment.toText ++ quoting.quote) trailing) hkey hcomment
  rw [strip_padded (Quoting.trimmed_quoted hinner), Quoting.unquote_quoted hinner] at hline
  rw [readEntries_of_look hlook, entries, hlines]
  simp only [rowsOf, List.filterMap_append, List.filterMap_cons, hline, List.map_append,
    List.map_cons, Entry.raw, Segment.expand_toText hvalues]

/-- A literal between two references, the first to a variable whose name is no word.  Its
value holds a quote, a reference and line breaks; that of the second is empty. -/
theorem readEntries_of_segments_inserted :
    let segments : List Segment :=
      [.reference "$A \x7b".toList (by decide), .literal "#='B".toList (by decide),
        .reference "B".toList (by decide)]
    let text := "# C\n X:int = \"$\x7b$A \x7b\x7d#='B$\x7bB\x7d\" \nY=1".toList
    let world := World.ofFile text
      [("$A \x7b".toList, "\"$\x7bB\x7d\r\n $B=".toList), ("B".toList, [])]
    let values := ["\"$\x7bB\x7d\r\n $B=".toList, "#='B".toList, []]
    Text.Trimmed Quoting.bare.loses (segments.flatMap Segment.toText) ∧
      List.Forall₂ (Segment.StandsFor world.valueOf?) segments values ∧
      readEntries world (Path.ofText "f".toList) =
        .ok [("X:int".toList, values.flatten), ("Y".toList, "1".toList)] := by
  intro segments text world values
  let space : Padding := ⟨[' '], List.all_eq_true.mp rfl, by decide⟩
  have hlines : Text.lines text = ["# C".toList] ++ (" X:int ".toList ++ '=' :: padded space
      (Quoting.quotationMarks.quote ++ segments.flatMap Segment.toText ++
        Quoting.quotationMarks.quote) space) :: ["Y=1".toList] := by decide
  have hkey : '=' ∉ " X:int ".toList := by decide
  have htrimmed : Text.Trimmed Quoting.bare.loses (segments.flatMap Segment.toText) := by decide
  have hvalues : List.Forall₂ (Segment.StandsFor world.valueOf?) segments values :=
    .cons (.reference _ rfl) (.cons (.literal _) (.cons (.reference _ rfl) .nil))
  refine ⟨htrimmed, hvalues, ?_⟩
  exact (readEntries_of_segments .quotationMarks space space rfl hlines hkey (by decide) htrimmed
    hvalues).trans rfl

end SizeFlags.Flags
