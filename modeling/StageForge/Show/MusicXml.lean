import StageForge.Library.Rounding
import StageForge.Library.PythonList
import StageForge.Show.Notation

/-!
# The MusicXML of a part

The derived notes are written measure by measure. A cursor goes through each measure and fills what lies
in front of a note and behind the last one with rests; notes that start together are a chord.
-/

namespace StageForge

open Python

/-! ## Derived notes -/

/-- One entry of `derived_notes`, before it is written as an object. -/
structure DerivedNote where
  note : CapturedNote
  startBeats : ℚ
  durationBeats : ℚ
  name : PitchName

def DerivedNote.document (d : DerivedNote) : Value :=
  let sign := if d.name.alter > 0 then "#" else if d.name.alter < 0 then "b" else ""
  .dict [("id", .int d.note.id), ("pitch", .int d.note.pitch.val), ("velocity", .int d.note.velocity),
    ("rawStartSeconds", timeValue d.note.rawStartSeconds 6),
    ("rawEndSeconds", timeValue d.note.rawEndSeconds 6),
    ("rawStartBeats", timeValue d.note.rawStartBeats 6),
    ("rawDurationBeats", timeValue d.note.rawDurationBeats 6),
    ("startBeats", .float (.finite d.startBeats)), ("durationBeats", .float (.finite d.durationBeats)),
    ("step", .str d.name.step), ("alter", .int d.name.alter), ("octave", .int d.name.octave),
    ("name", .str (d.name.step ++ sign ++ toString d.name.octave))]

def NotationPart.derive (part : NotationPart) (key : String) (n : CapturedNote) :
    Except Error DerivedNote := do
  let grid := part.settings.quantize
  let start ← quantizeBeats n.rawStartBeats grid
  let duration ← quantizeBeats n.rawDurationBeats grid
  return { note := n
           startBeats := round start 6
           durationBeats := round (max grid.step duration) 6
           name := midiPitchName n.pitch (if part.settings.spellByProjectKey then key else "C") }

def NotationPart.deriveAll (part : NotationPart) (key : String) : Except Error (List DerivedNote) :=
  part.notes.mapM (part.derive key)

lemma derivedNote_eq_derive (part : NotationPart) (key : String) (n : CapturedNote) :
    part.derivedNote key n = (part.derive key n).map DerivedNote.document := by
  unfold NotationPart.derivedNote NotationPart.derive
  dsimp only
  cases quantizeBeats n.rawStartBeats part.settings.quantize with
  | error e => rfl
  | ok start =>
    cases quantizeBeats n.rawDurationBeats part.settings.quantize with
    | error e => rfl
    | ok duration => rfl

/-! ## Measures -/

/-- One `<note>` of a measure. -/
inductive MeasureItem
  | rest (duration : Int)
  | note (chord : Bool) (name : PitchName) (duration : Int)

def divisions : ℚ := 8

def DerivedNote.measure (n : DerivedNote) : Int := ⌊n.startBeats / 4⌋ + 1

/-- `(startBeats, pitch)`. -/
def DerivedNote.key (n : DerivedNote) : ℚ ×ₗ Fin 128 := toLex (n.startBeats, n.note.pitch)

def measureNotes (notes : List DerivedNote) (measure : Int) : List DerivedNote :=
  sortOn DerivedNote.key (notes.filter fun n => n.measure = measure)

/-- What goes on from note to note of a measure. -/
structure MeasureCursor where
  cursor : ℚ
  lastStart : Option ℚ
  items : List MeasureItem

def durationOf (beats : ℚ) : Int := max 1 (roundHalfEven (beats * divisions))

namespace MeasureCursor

def chord (m : MeasureCursor) (n : DerivedNote) : Bool := match m.lastStart with
  | none => false
  | some last => |n.startBeats - last| < 1 / 10 ^ 9

def add (m : MeasureCursor) (n : DerivedNote) : MeasureCursor :=
  let gap := if m.chord n then 0 else max 0 (n.startBeats - m.cursor)
  let rests := if 1 / 10 ^ 9 < gap then [.rest (durationOf gap)] else []
  let cursor := if 1 / 10 ^ 9 < gap then m.cursor + durationOf gap / divisions else m.cursor
  { cursor := if m.chord n then cursor else max cursor (n.startBeats + n.durationBeats)
    lastStart := some n.startBeats
    items := m.items ++ rests ++ [.note (m.chord n) n.name (durationOf n.durationBeats)] }

def close (m : MeasureCursor) (barLine : ℚ) : List MeasureItem :=
  m.items ++ if 1 / 10 ^ 9 < barLine - m.cursor then [.rest (durationOf (barLine - m.cursor))] else []

end MeasureCursor

def measureItems (notes : List DerivedNote) (measure : Int) : List MeasureItem :=
  ((measureNotes notes measure).foldl MeasureCursor.add ⟨(measure - 1) * 4, none, []⟩).close
    (measure * 4)

/-- `range(1, max(measures) + 1)`; without notes there is one measure. -/
def measureNumbers (notes : List DerivedNote) : List Int :=
  Int.range 1 ((notes.map DerivedNote.measure).foldl max 1 + 1)

/-! ## The document -/

def MeasureItem.lines : MeasureItem → List String
  | .rest duration =>
    ["      <note>", "        <rest/>", "        <duration>" ++ toString duration ++ "</duration>",
      "      </note>"]
  | .note chord name duration =>
    ["      <note>"] ++ (if chord then ["        <chord/>"] else []) ++
      ["        <pitch>", "          <step>" ++ name.step ++ "</step>"] ++
      (if name.alter ≠ 0 then ["          <alter>" ++ toString name.alter ++ "</alter>"] else []) ++
      ["          <octave>" ++ toString name.octave ++ "</octave>", "        </pitch>",
        "        <duration>" ++ toString duration ++ "</duration>", "      </note>"]

def fifthsByKey : List (String × Int) :=
  [("C", 0), ("G", 1), ("D", 2), ("A", 3), ("E", 4), ("B", 5), ("F#", 6), ("C#", 7), ("F", -1),
    ("Bb", -2), ("Eb", -3), ("Ab", -4), ("Db", -5), ("Gb", -6), ("Cb", -7)]

/-- `html.escape`. -/
def escapeHtml (s : String) : String := String.join (s.toList.map fun c =>
    if c = '&' then "&amp;" else if c = '<' then "&lt;" else if c = '>' then "&gt;"
    else if c = '\x22' then "&quot;" else if c = '\x27' then "&#x27;" else c.toString)

/-- The lines at the beginning of the first measure; `tempo` is the tempo as it is printed. -/
def attributeLines (tempo key : String) : List String :=
  ["      <attributes>", "        <divisions>8</divisions>",
    "        <key><fifths>" ++ toString ((fifthsByKey.lookup key).getD 0) ++ "</fifths></key>",
    "        <time><beats>4</beats><beat-type>4</beat-type></time>",
    "        <clef><sign>G</sign><line>2</line></clef>", "      </attributes>",
    "      <direction placement=\"above\"><sound tempo=\"" ++ tempo ++ "\"/></direction>"]

def measureLines (tempo key : String) (notes : List DerivedNote) (measure : Int) : List String :=
  ["    <measure number=\"" ++ toString measure ++ "\">"] ++
    (if measure = 1 then attributeLines tempo key else []) ++
    (measureItems notes measure).flatMap MeasureItem.lines ++ ["    </measure>"]

def NotationPart.musicxml (part : NotationPart) (partName tempo key : String) : Except Error String := do
  let notes ← part.deriveAll key
  return "\n".intercalate (["<?xml version=\"1.0\" encoding=\"UTF-8\" standalone=\"no\"?>",
      "<!DOCTYPE score-partwise PUBLIC \"-//Recordare//DTD MusicXML 4.0 Partwise//EN\" " ++
        "\"http://www.musicxml.org/dtds/partwise.dtd\">",
      "<score-partwise version=\"4.0\">", "  <part-list>",
      "    <score-part id=\"P1\"><part-name>" ++ escapeHtml partName ++ "</part-name></score-part>",
      "  </part-list>", "  <part id=\"P1\">"] ++
    (measureNumbers notes).flatMap (measureLines tempo key notes) ++
    ["  </part>", "</score-partwise>", ""])

/-! ## Where the notes of a measure stand -/

def MeasureItem.advance : MeasureItem → Int
  | .rest duration => duration
  | .note chord _ duration => if chord then 0 else duration

def filled (items : List MeasureItem) : Int := (items.map MeasureItem.advance).sum

/-- Where the notes stand, after `time` divisions; a note of a chord stands where the one before does. -/
def onsets : Int → Int → List MeasureItem → List Int
  | _, _, [] => []
  | time, last, .rest duration :: items => onsets (time + duration) last items
  | time, last, .note true _ _ :: items => last :: onsets time last items
  | time, _, .note false _ duration :: items => time :: onsets (time + duration) time items

/-- The measure is full, and every note of it stands at the division where it starts. -/
def FullMeasure (notes : List DerivedNote) (measure : Int) : Prop :=
  filled (measureItems notes measure) = 32 ∧
    (onsets 0 0 (measureItems notes measure)).map (fun onset : Int => (onset : ℚ)) =
      (measureNotes notes measure).map fun n => n.startBeats * divisions - (measure - 1) * 32

/-- The notes that are not written into the chord of the one before. -/
def leadsFrom : Option ℚ → List DerivedNote → List DerivedNote
  | _, [] => []
  | last, n :: notes =>
    if last = some n.startBeats then leadsFrom last notes
    else n :: leadsFrom (some n.startBeats) notes

/-- Of every start in the measure, the lowest note. -/
def leads (notes : List DerivedNote) (measure : Int) : List DerivedNote :=
  leadsFrom none (measureNotes notes measure)

/-- No note that leads a start lasts beyond the next start or the bar line. -/
structure NotesFit (notes : List DerivedNote) (measure : Int) : Prop where
  apart : (leads notes measure).IsChain fun m n => m.startBeats + m.durationBeats ≤ n.startBeats
  inside : ∀ n ∈ leads notes measure, n.startBeats + n.durationBeats ≤ measure * 4

/-! ## The grid of divisions -/

/-- The note starts at a division and lasts some. -/
structure OnGrid (n : DerivedNote) (start length : Int) : Prop where
  start_eq : n.startBeats = start / divisions
  length_eq : n.durationBeats = length / divisions
  length_pos : 0 < length

def DerivedNote.start (n : DerivedNote) : Int := ⌊n.startBeats * divisions⌋

def DerivedNote.length (n : DerivedNote) : Int := ⌊n.durationBeats * divisions⌋

lemma divisions_ne : divisions ≠ 0 := by
  rw [divisions]
  norm_num

lemma OnGrid.eq {n : DerivedNote} {start length : Int} (h : OnGrid n start length) :
    n.start = start ∧ n.length = length := by
  rw [DerivedNote.start, DerivedNote.length, h.start_eq, h.length_eq, div_mul_cancel₀ _ divisions_ne,
    div_mul_cancel₀ _ divisions_ne, Int.floor_intCast, Int.floor_intCast]
  exact ⟨rfl, rfl⟩

lemma round_division (z : Int) : round ((z : ℚ) / divisions) 6 = z / divisions := by
  have hdigits : (z : ℚ) / divisions * 10 ^ 6 = ((z * 125000 : Int) : ℚ) := by
    rw [divisions]
    push_cast
    ring
  rw [Python.round, hdigits, roundHalfEven_intCast, ← hdigits, mul_div_assoc, div_self (by norm_num), mul_one]

lemma step_eq (grid : Grid) : ∃ k : Int, 0 < k ∧ grid.step = k / divisions := by
  cases grid
  · exact ⟨8, by decide, by norm_num [Grid.step, divisions]⟩
  · exact ⟨4, by decide, by norm_num [Grid.step, divisions]⟩
  · exact ⟨2, by decide, by norm_num [Grid.step, divisions]⟩
  · exact ⟨1, by decide, by norm_num [Grid.step, divisions]⟩

lemma quantizeBeats_division {beats : WithTop ℚ} {grid : Grid} {q : ℚ}
    (h : quantizeBeats beats grid = .ok q) : ∃ z : Int, q = z / divisions := by
  obtain ⟨k, -, hk⟩ := step_eq grid
  induction beats using WithTop.recTopCoe with
  | top => cases h
  | coe b =>
    cases h
    refine ⟨⌊max 0 b / grid.step + 1 / 2⌋ * k, ?_⟩
    rw [hk]
    push_cast
    ring

/-- **Derived notes are on the grid.** -/
lemma onGrid_of_derive {part : NotationPart} {key : String} {c : CapturedNote} {n : DerivedNote}
    (h : part.derive key c = .ok n) : OnGrid n n.start n.length := by
  obtain ⟨start, hstart, h⟩ := bind_eq_ok.mp h
  obtain ⟨duration, hduration, h⟩ := bind_eq_ok.mp h
  cases h
  obtain ⟨z, hz⟩ := quantizeBeats_division hstart
  obtain ⟨w, hw⟩ := quantizeBeats_division hduration
  obtain ⟨k, hpos, hk⟩ := step_eq part.settings.quantize
  have hmax : max part.settings.quantize.step duration = (max k w : Int) / divisions := by
    rw [hk, hw, Int.cast_max, max_div_div_right (by rw [divisions]; norm_num)]
  have hgrid : OnGrid
      { note := c
        startBeats := round start 6
        durationBeats := round (max part.settings.quantize.step duration) 6
        name := midiPitchName c.pitch (if part.settings.spellByProjectKey then key else "C") }
      z (max k w) :=
    { start_eq := (congrArg (round · 6) hz).trans (round_division z)
      length_eq := (congrArg (round · 6) hmax).trans (round_division _)
      length_pos := lt_of_lt_of_le hpos (le_max_left _ _) }
  obtain ⟨hz', hw'⟩ := hgrid.eq
  rw [hz', hw']
  exact hgrid

/-! ## A measure on the grid -/

/-- What a cursor writes that stands at a division, and where it stands after that. -/
def itemsFrom : Int → Option Int → List DerivedNote → List MeasureItem × Int
  | cursor, _, [] => ([], cursor)
  | cursor, last, n :: notes =>
    if last = some n.start then
      let rest := itemsFrom cursor (some n.start) notes
      (.note true n.name n.length :: rest.1, rest.2)
    else
      let rest := itemsFrom (max cursor (n.start + n.length)) (some n.start) notes
      ((if cursor < n.start then [.rest (n.start - cursor)] else []) ++
        .note false n.name n.length :: rest.1, rest.2)

lemma durationOf_division {z : Int} (h : 0 < z) : durationOf ((z : ℚ) / divisions) = z := by
  rw [durationOf, div_mul_cancel₀ _ divisions_ne, roundHalfEven_intCast]
  omega

lemma division_gap {z : Int} : 1 / 10 ^ 9 < (z : ℚ) / divisions ↔ 0 < z := by
  have hpositive : (0 : ℚ) < divisions := by
    rw [divisions]
    norm_num
  constructor
  · intro h
    by_contra hz
    have hnonpos : (z : ℚ) / divisions ≤ 0 :=
      div_nonpos_of_nonpos_of_nonneg (by exact_mod_cast not_lt.mp hz) hpositive.le
    have : (0 : ℚ) < 1 / 10 ^ 9 := by norm_num
    linarith
  · intro h
    have hone : (1 : ℚ) ≤ z := by exact_mod_cast h
    have hdiv : 1 / divisions ≤ (z : ℚ) / divisions := div_le_div_of_nonneg_right hone hpositive.le
    refine lt_of_lt_of_le ?_ hdiv
    rw [divisions]
    norm_num

lemma division_close {z w : Int} : |(z : ℚ) / divisions - w / divisions| < 1 / 10 ^ 9 ↔ w = z := by
  rw [← sub_div]
  constructor
  · intro h
    obtain ⟨hlow, hhigh⟩ := abs_lt.mp h
    have hnot : ¬ 0 < z - w := by
      rw [← division_gap]
      push_cast
      linarith
    have hnot' : ¬ 0 < w - z := by
      rw [← division_gap]
      push_cast
      rw [← neg_sub, neg_div]
      linarith
    omega
  · rintro rfl
    norm_num

structure StandsAt (m : MeasureCursor) (cursor : Int) (last : Option Int) : Prop where
  cursor_eq : m.cursor = cursor / divisions
  lastStart : m.lastStart = last.map fun z : Int => (z : ℚ) / divisions

section

variable {m : MeasureCursor} {n : DerivedNote} {cursor : Int} {last : Option Int}

lemma chord_iff (h : StandsAt m cursor last) (hn : OnGrid n n.start n.length) :
    m.chord n = decide (last = some n.start) := by
  rw [MeasureCursor.chord, h.lastStart]
  cases last with
  | none => rfl
  | some z =>
    rw [Option.map_some]
    rw [hn.start_eq]
    refine decide_eq_decide.mpr (division_close.trans ?_)
    rw [Option.some.injEq]

lemma add_chord (h : StandsAt m cursor last) (hn : OnGrid n n.start n.length)
    (hlast : last = some n.start) :
    StandsAt (m.add n) cursor (some n.start) ∧
      (m.add n).items = m.items ++ [.note true n.name n.length] := by
  have hchord : m.chord n = true := by
    rw [chord_iff h hn]
    exact decide_eq_true hlast
  have hlength : durationOf n.durationBeats = n.length := by
    rw [hn.length_eq]
    exact durationOf_division hn.length_pos
  have hgap : ¬ (1 / 10 ^ 9 < (0 : ℚ)) := by norm_num
  unfold MeasureCursor.add
  simp only [hchord, if_true, hgap, if_false, hlength, List.append_nil]
  exact ⟨⟨h.cursor_eq, congrArg some hn.start_eq⟩, trivial⟩

lemma add_lead (h : StandsAt m cursor last) (hn : OnGrid n n.start n.length)
    (hlast : last ≠ some n.start) :
    StandsAt (m.add n) (max cursor (n.start + n.length)) (some n.start) ∧
      (m.add n).items = m.items ++ ((if cursor < n.start then [.rest (n.start - cursor)] else []) ++
        [.note false n.name n.length]) := by
  have hchord : m.chord n = false := by
    rw [chord_iff h hn]
    exact decide_eq_false hlast
  have hlength : durationOf n.durationBeats = n.length := by
    rw [hn.length_eq]
    exact durationOf_division hn.length_pos
  have hpositive : (0 : ℚ) < divisions := by
    rw [divisions]
    norm_num
  have hgapEq : max 0 (n.startBeats - m.cursor) = (max 0 (n.start - cursor) : Int) / divisions := by
    rw [hn.start_eq, h.cursor_eq, ← sub_div, Int.cast_max, ← max_div_div_right hpositive.le]
    push_cast
    rw [zero_div]
  have hend : n.startBeats + n.durationBeats = ((n.start + n.length : Int) : ℚ) / divisions := by
    rw [hn.start_eq, hn.length_eq, ← add_div]
    push_cast
    rfl
  unfold MeasureCursor.add
  simp only [hchord, Bool.false_eq_true, if_false, hlength, hgapEq, hend]
  by_cases hrest : cursor < n.start
  · have hgap : 0 < max 0 (n.start - cursor) := by omega
    have hgapLength : max 0 (n.start - cursor) = n.start - cursor := by omega
    have hmoved : m.cursor + ((n.start - cursor : Int) : ℚ) / divisions = n.start / divisions := by
      rw [h.cursor_eq, ← add_div]
      push_cast
      ring
    rw [if_pos (division_gap.mpr hgap), if_pos (division_gap.mpr hgap), if_pos hrest,
      durationOf_division hgap, hgapLength, hmoved, max_div_div_right hpositive.le, ← Int.cast_max,
      List.append_assoc]
    have hmax : max n.start (n.start + n.length) = max cursor (n.start + n.length) := by
      have := hn.length_pos
      omega
    rw [hmax]
    exact ⟨⟨rfl, congrArg some hn.start_eq⟩, rfl⟩
  · have hgap : ¬ 0 < max 0 (n.start - cursor) := by omega
    rw [if_neg (mt division_gap.mp hgap), if_neg (mt division_gap.mp hgap), if_neg hrest, h.cursor_eq,
      max_div_div_right hpositive.le, ← Int.cast_max, List.append_nil, List.nil_append]
    exact ⟨⟨rfl, congrArg some hn.start_eq⟩, rfl⟩

end

variable {notes : List DerivedNote} {cursor : Int} {last : Option Int}

lemma foldl_add {m : MeasureCursor}
    (h : StandsAt m cursor last) (hnotes : ∀ n ∈ notes, OnGrid n n.start n.length) :
    (notes.foldl MeasureCursor.add m).cursor = (itemsFrom cursor last notes).2 / divisions ∧
      (notes.foldl MeasureCursor.add m).items = m.items ++ (itemsFrom cursor last notes).1 := by
  induction notes generalizing m cursor last with
  | nil => exact ⟨h.cursor_eq, (List.append_nil _).symm⟩
  | cons n notes ih =>
    obtain ⟨hn, hnotes⟩ := List.forall_mem_cons.mp hnotes
    rw [List.foldl_cons, itemsFrom]
    by_cases hlast : last = some n.start
    · obtain ⟨hnext, hitems⟩ := add_chord h hn hlast
      obtain ⟨hcursor, hrest⟩ := ih hnext hnotes
      rw [if_pos hlast, hcursor, hrest, hitems, List.append_assoc]
      exact ⟨rfl, rfl⟩
    · obtain ⟨hnext, hitems⟩ := add_lead h hn hlast
      obtain ⟨hcursor, hrest⟩ := ih hnext hnotes
      rw [if_neg hlast, hcursor, hrest, hitems, List.append_assoc, List.append_assoc]
      exact ⟨rfl, rfl⟩

lemma measureItems_eq (hnotes : ∀ n ∈ notes, OnGrid n n.start n.length)
    (measure : Int) :
    measureItems notes measure =
      (itemsFrom ((measure - 1) * 32) none (measureNotes notes measure)).1 ++
        (if (itemsFrom ((measure - 1) * 32) none (measureNotes notes measure)).2 < measure * 32 then
          [.rest (measure * 32 -
            (itemsFrom ((measure - 1) * 32) none (measureNotes notes measure)).2)]
        else []) := by
  have hstart : StandsAt ⟨((measure - 1 : Int) : ℚ) * 4, none, []⟩ ((measure - 1) * 32) none := by
    refine ⟨?_, rfl⟩
    rw [divisions]
    push_cast
    ring
  have hmem : ∀ n ∈ measureNotes notes measure, OnGrid n n.start n.length := fun n hn =>
    hnotes n (List.mem_filter.mp (mem_sortOn.mp hn)).1
  obtain ⟨hcursor, hitems⟩ := foldl_add hstart hmem
  have hbar : (measure : ℚ) * 4 - (itemsFrom ((measure - 1) * 32) none
        (measureNotes notes measure)).2 / divisions =
      ((measure * 32 - (itemsFrom ((measure - 1) * 32) none
        (measureNotes notes measure)).2 : Int) : ℚ) / divisions := by
    rw [divisions]
    push_cast
    ring
  have hcast : ((measure - 1 : Int) : ℚ) = (measure : ℚ) - 1 := by
    push_cast
    rfl
  rw [hcast] at hcursor hitems
  unfold measureItems MeasureCursor.close
  rw [hcursor, hitems, List.nil_append, hbar]
  congr 1
  by_cases hrest : (itemsFrom ((measure - 1) * 32) none (measureNotes notes measure)).2 < measure * 32
  · rw [if_pos (division_gap.mpr (by omega)), if_pos hrest, durationOf_division (by omega)]
  · rw [if_neg (mt division_gap.mp (by omega)), if_neg hrest]

/-! ## When a measure is full -/

/-- No note that leads a start begins before the cursor. -/
def ClearFrom : Int → Option Int → List DerivedNote → Prop
  | _, _, [] => True
  | cursor, last, n :: notes =>
    if last = some n.start then ClearFrom cursor (some n.start) notes
    else cursor ≤ n.start ∧ ClearFrom (max cursor (n.start + n.length)) (some n.start) notes

lemma filled_append (items items' : List MeasureItem) :
    filled (items ++ items') = filled items + filled items' := by
  rw [filled, List.map_append, List.sum_append]
  rfl

lemma filled_rest (gap : Int) (wanted : Prop) [Decidable wanted] :
    filled (if wanted then [.rest gap] else []) = if wanted then gap else 0 := by
  split_ifs
  · exact add_zero gap
  · rfl

/-- **What is written is no less than the way of the cursor, and no more only if nothing overlaps.** -/
lemma filled_itemsFrom
    (hpos : ∀ n ∈ notes, 0 < n.length) :
    (itemsFrom cursor last notes).2 - cursor ≤ filled (itemsFrom cursor last notes).1 ∧
      (filled (itemsFrom cursor last notes).1 = (itemsFrom cursor last notes).2 - cursor ↔
        ClearFrom cursor last notes) := by
  induction notes generalizing cursor last with
  | nil => exact ⟨(sub_self cursor).le, iff_of_true (sub_self cursor).symm trivial⟩
  | cons n notes ih =>
    obtain ⟨hn, hpos⟩ := List.forall_mem_cons.mp hpos
    unfold itemsFrom ClearFrom
    by_cases hlast : last = some n.start
    · obtain ⟨hle, hiff⟩ := @ih cursor (some n.start) hpos
      rw [if_pos hlast, if_pos hlast]
      rw [filled, List.map_cons, List.sum_cons, ← filled, MeasureItem.advance, if_pos rfl, zero_add]
      exact ⟨hle, hiff⟩
    · obtain ⟨hle, hiff⟩ := @ih (max cursor (n.start + n.length)) (some n.start) hpos
      rw [if_neg hlast, if_neg hlast]
      dsimp only
      rw [filled_append, filled_rest]
      rw [filled, List.map_cons, List.sum_cons, ← filled, MeasureItem.advance,
        if_neg (Bool.false_ne_true), ← hiff]
      split_ifs with hrest
      · constructor
        · omega
        · constructor
          · intro h
            exact ⟨hrest.le, by omega⟩
          · rintro ⟨-, h⟩
            omega
      · constructor
        · omega
        · constructor
          · intro h
            exact ⟨by omega, by omega⟩
          · rintro ⟨hclear, h⟩
            omega

lemma onsets_itemsFrom {time at' origin : Int}
    (h : ClearFrom cursor last notes) (hpos : ∀ n ∈ notes, 0 < n.length)
    (htime : time = cursor - origin) (hat : ∀ z, last = some z → at' = z - origin) :
    onsets time at' (itemsFrom cursor last notes).1 = notes.map fun n => n.start - origin := by
  induction notes generalizing cursor last time at' with
  | nil => rfl
  | cons n notes ih =>
    obtain ⟨hn, hpos⟩ := List.forall_mem_cons.mp hpos
    unfold itemsFrom
    unfold ClearFrom at h
    by_cases hlast : last = some n.start
    · rw [if_pos hlast] at h ⊢
      rw [onsets, List.map_cons, hat n.start hlast]
      rw [ih h hpos htime fun z hz => by rw [Option.some.inj hz]]
    · rw [if_neg hlast] at h ⊢
      obtain ⟨hclear, h⟩ := h
      dsimp only
      by_cases hrest : cursor < n.start
      · rw [if_pos hrest, List.singleton_append, onsets, onsets, List.map_cons]
        have hhere : time + (n.start - cursor) = n.start - origin := by omega
        rw [hhere, ih h hpos (by omega) fun z hz => by rw [Option.some.inj hz]]
      · rw [if_neg hrest, List.nil_append, onsets, List.map_cons]
        have hhere : time = n.start - origin := by omega
        rw [hhere, ih h hpos (by omega) fun z hz => by rw [Option.some.inj hz]]

lemma onsets_append_rest (duration : Int) : ∀ (items : List MeasureItem) (time last : Int),
    onsets time last (items ++ [.rest duration]) = onsets time last items
  | [], _, _ => rfl
  | .rest d :: items, time, last => onsets_append_rest duration items (time + d) last
  | .note true _ _ :: items, time, last =>
    congrArg (last :: ·) (onsets_append_rest duration items time last)
  | .note false _ d :: items, time, _ =>
    congrArg (time :: ·) (onsets_append_rest duration items (time + d) time)

section

variable {notes : List DerivedNote} {cursor : Int} {last : Option Int}

variable {n : DerivedNote}

lemma start_eq_iff {z : Int} (hn : OnGrid n n.start n.length) :
    (z : ℚ) / divisions = n.startBeats ↔ z = n.start := by
  rw [hn.start_eq, div_left_inj' divisions_ne, Int.cast_inj]

lemma OnGrid.end_le_iff (hn : OnGrid n n.start n.length) {q : ℚ} {z : Int}
    (hq : q = z / divisions) : n.startBeats + n.durationBeats ≤ q ↔ n.start + n.length ≤ z := by
  have hpositive : (0 : ℚ) < divisions := by
    rw [divisions]
    norm_num
  rw [hn.start_eq, hn.length_eq, ← add_div, hq, div_le_div_iff_of_pos_right hpositive]
  exact_mod_cast Iff.rfl

lemma leadsFrom_cons (hn : OnGrid n n.start n.length) :
    leadsFrom (last.map fun z : Int => (z : ℚ) / divisions) (n :: notes) =
      if last = some n.start then leadsFrom (last.map fun z : Int => (z : ℚ) / divisions) notes
      else n :: leadsFrom ((some n.start).map fun z : Int => (z : ℚ) / divisions) notes := by
  have hsame : (last.map fun z : Int => (z : ℚ) / divisions) = some n.startBeats ↔
      last = some n.start := by
    cases last with
    | none => exact iff_of_false (by simp) (by simp)
    | some z =>
      rw [Option.map_some, Option.some.injEq, Option.some.injEq]
      exact start_eq_iff hn
  rw [leadsFrom]
  simp only [hsame, Option.map_some, ← hn.start_eq]

lemma leadsFrom_subset : ∀ {last : Option ℚ} {notes : List DerivedNote},
    ∀ n ∈ leadsFrom last notes, n ∈ notes
  | _, [], n, h => h
  | last, m :: notes, n, h => by
    rw [leadsFrom] at h
    split_ifs at h
    · exact List.mem_cons_of_mem _ (leadsFrom_subset n h)
    · rcases List.mem_cons.mp h with rfl | h
      · exact List.mem_cons_self
      · exact List.mem_cons_of_mem _ (leadsFrom_subset n h)

lemma cursor_le_iff (hnotes : ∀ n ∈ notes, OnGrid n n.start n.length) {z : Int} :
    (itemsFrom cursor last notes).2 ≤ z ↔ cursor ≤ z ∧
      ∀ n ∈ leadsFrom (last.map fun z : Int => (z : ℚ) / divisions) notes, n.start + n.length ≤ z := by
  induction notes generalizing cursor last with
  | nil => exact (and_iff_left (List.forall_mem_nil _)).symm
  | cons n notes ih =>
    obtain ⟨hn, hnotes⟩ := List.forall_mem_cons.mp hnotes
    rw [itemsFrom, leadsFrom_cons hn]
    by_cases hlast : last = some n.start
    · rw [if_pos hlast, if_pos hlast, hlast]
      exact ih hnotes
    · rw [if_neg hlast, if_neg hlast, List.forall_mem_cons]
      rw [ih hnotes, max_le_iff, and_assoc]

lemma clearFrom_iff (hnotes : ∀ n ∈ notes, OnGrid n n.start n.length) :
    ClearFrom cursor last notes ↔
      (∀ n ∈ (leadsFrom (last.map fun z : Int => (z : ℚ) / divisions) notes).head?, cursor ≤ n.start) ∧
        (leadsFrom (last.map fun z : Int => (z : ℚ) / divisions) notes).IsChain
          fun m n => m.startBeats + m.durationBeats ≤ n.startBeats := by
  induction notes generalizing cursor last with
  | nil => exact iff_of_true trivial ⟨fun n hn => (by cases hn), .nil⟩
  | cons n notes ih =>
    obtain ⟨hn, hnotes⟩ := List.forall_mem_cons.mp hnotes
    rw [ClearFrom, leadsFrom_cons hn]
    by_cases hlast : last = some n.start
    · rw [if_pos hlast, if_pos hlast, hlast]
      exact ih hnotes
    · rw [if_neg hlast, if_neg hlast, ih hnotes, List.isChain_cons, List.head?_cons]
      have hmem : ∀ m ∈ (leadsFrom ((some n.start).map fun z : Int => (z : ℚ) / divisions)
          notes).head?, OnGrid m m.start m.length := fun m hm =>
        hnotes m (leadsFrom_subset m (List.mem_of_mem_head? hm))
      constructor
      · rintro ⟨hclear, hhead, hchain⟩
        refine ⟨fun m hm => ?_, fun m hm => ?_, hchain⟩
        · cases hm
          exact hclear
        · refine (hn.end_le_iff (hmem m hm).start_eq).mpr ?_
          have := hhead m hm
          omega
      · rintro ⟨hclear, hhead, hchain⟩
        have hclear := hclear n rfl
        have hlength := hn.length_pos
        refine ⟨hclear, fun m hm => ?_, hchain⟩
        have hend := (hn.end_le_iff (hmem m hm).start_eq).mp (hhead m hm)
        omega

end

/-! ## Full measures -/

section

variable {notes : List DerivedNote} {measure : Int}

lemma start_ge_of_mem {n : DerivedNote} (hn : OnGrid n n.start n.length)
    (hmem : n ∈ measureNotes notes measure) : (measure - 1) * 32 ≤ n.start := by
  have hmeasure : n.measure = measure :=
    of_decide_eq_true (List.mem_filter.mp (mem_sortOn.mp hmem)).2
  have hfloor : measure - 1 = ⌊n.startBeats / 4⌋ := by
    rw [← hmeasure, DerivedNote.measure]
    omega
  have hle : ((measure - 1 : Int) : ℚ) ≤ n.startBeats / 4 := by
    rw [hfloor]
    exact Int.floor_le _
  rw [hn.start_eq, divisions] at hle
  have hdiv : ((measure - 1 : Int) : ℚ) * 32 ≤ n.start := by linarith
  exact_mod_cast hdiv

lemma notesFit_iff (hnotes : ∀ n ∈ notes, OnGrid n n.start n.length) :
    NotesFit notes measure ↔ ClearFrom ((measure - 1) * 32) none (measureNotes notes measure) ∧
      (itemsFrom ((measure - 1) * 32) none (measureNotes notes measure)).2 ≤ measure * 32 := by
  have hmem : ∀ n ∈ measureNotes notes measure, OnGrid n n.start n.length := fun n hn =>
    hnotes n (List.mem_filter.mp (mem_sortOn.mp hn)).1
  have hleads : ∀ n ∈ leads notes measure, n ∈ measureNotes notes measure := fun n hn =>
    leadsFrom_subset n hn
  have hbar : (measure : ℚ) * 4 = ((measure * 32 : Int) : ℚ) / divisions := by
    rw [divisions]
    push_cast
    ring
  rw [clearFrom_iff hmem, cursor_le_iff hmem]
  constructor
  · rintro ⟨hapart, hinside⟩
    refine ⟨⟨fun n hn => ?_, hapart⟩, by omega, fun n hn => ?_⟩
    · have hin := hleads n (List.mem_of_mem_head? hn)
      exact start_ge_of_mem (hmem n hin) hin
    · exact ((hmem n (hleads n hn)).end_le_iff hbar).mp (hinside n hn)
  · rintro ⟨⟨-, hapart⟩, -, hinside⟩
    exact ⟨hapart, fun n hn => ((hmem n (hleads n hn)).end_le_iff hbar).mpr (hinside n hn)⟩

/-- **A measure is full if and only if its notes fit.** -/
lemma fullMeasure_iff (hnotes : ∀ n ∈ notes, OnGrid n n.start n.length) :
    FullMeasure notes measure ↔ NotesFit notes measure := by
  have hmem : ∀ n ∈ measureNotes notes measure, OnGrid n n.start n.length := fun n hn =>
    hnotes n (List.mem_filter.mp (mem_sortOn.mp hn)).1
  have hpos : ∀ n ∈ measureNotes notes measure, 0 < n.length := fun n hn => (hmem n hn).length_pos
  obtain ⟨hle, hclear⟩ := @filled_itemsFrom _ ((measure - 1) * 32) none hpos
  rw [notesFit_iff hnotes, FullMeasure, measureItems_eq hnotes, filled_append, filled_rest]
  constructor
  · rintro ⟨hfilled, -⟩
    rw [← hclear]
    split_ifs at hfilled <;> omega
  · rintro ⟨hnone, hinside⟩
    have hfilled := hclear.mpr hnone
    refine ⟨by split_ifs <;> omega, ?_⟩
    have honsets : onsets 0 0 (itemsFrom ((measure - 1) * 32) none (measureNotes notes measure)).1 =
        (measureNotes notes measure).map fun n => n.start - (measure - 1) * 32 :=
      onsets_itemsFrom hnone hpos (sub_self _).symm fun z hz => by cases hz
    have hrest : onsets 0 0 ((itemsFrom ((measure - 1) * 32) none (measureNotes notes measure)).1 ++
        if (itemsFrom ((measure - 1) * 32) none (measureNotes notes measure)).2 < measure * 32 then
          [.rest (measure * 32 - (itemsFrom ((measure - 1) * 32) none
            (measureNotes notes measure)).2)]
        else []) =
          onsets 0 0 (itemsFrom ((measure - 1) * 32) none (measureNotes notes measure)).1 := by
      split_ifs
      · exact onsets_append_rest _ _ _ _
      · rw [List.append_nil]
    rw [hrest, honsets, List.map_map]
    refine List.map_congr_left fun n hn => ?_
    rw [Function.comp_apply, (hmem n hn).start_eq, div_mul_cancel₀ _ divisions_ne]
    push_cast
    rfl

end

/-- **Every measure is full, and every note starts where it says, if and only if in every measure the
notes that lead a start end before the next start and the bar line.** -/
theorem fullMeasures_iff {part : NotationPart} {key : String} {notes : List DerivedNote}
    (h : part.deriveAll key = .ok notes) :
    (∀ measure ∈ measureNumbers notes, FullMeasure notes measure) ↔
      ∀ measure ∈ measureNumbers notes, NotesFit notes measure := by
  have hnotes : ∀ n ∈ notes, OnGrid n n.start n.length := by
    intro n hn
    obtain ⟨c, -, hc⟩ := (mem_of_mapM_eq_ok h).2 n hn
    exact onGrid_of_derive hc
  exact forall₂_congr fun measure _ => fullMeasure_iff hnotes

def playedNote (id : Int) (pitch : Fin 128) (start duration : ℚ) : CapturedNote :=
  { id, pitch, velocity := 100, rawStartSeconds := start, rawEndSeconds := (start + duration : ℚ)
    rawStartBeats := start, rawDurationBeats := duration }

/-- A second note that begins while the first one is held. -/
def overlappingPart : NotationPart :=
  { NotationPart.new "p" with notes := [playedNote 1 60 0 2, playedNote 2 62 1 1] }

theorem not_fullMeasures : (overlappingPart.deriveAll "C").toOption.map
        (fun notes => (measureNumbers notes, filled (measureItems notes 1))) = some ([1], 40) := by
  decide +kernel

theorem fullMeasures_iff_overlapping : ∃ notes, overlappingPart.deriveAll "C" = .ok notes ∧
      ((∀ measure ∈ measureNumbers notes, FullMeasure notes measure) ↔
        ∀ measure ∈ measureNumbers notes, NotesFit notes measure) := by
  have hread : (overlappingPart.deriveAll "C").toOption.isSome := by decide +kernel
  cases h : overlappingPart.deriveAll "C" with
  | error e =>
    rw [h] at hread
    cases hread
  | ok notes => exact ⟨notes, rfl, fullMeasures_iff h⟩

end StageForge
