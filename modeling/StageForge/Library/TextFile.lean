import StageForge.Library.PythonValue

/-!
# Text files

What a program that opens a file for reading as UTF-8 text sees of its bytes: characters, with every
line break turned into `\n`, line by line.
-/

namespace Python

attribute [local instance (high)] ByteArray.instDecidableEq

def encode (cs : List Char) : ByteArray := (String.ofList cs).toByteArray

/-- Every line break is one `\n`. -/
def universalNewlines : List Char → List Char
  | [] => []
  | c :: cs =>
    if c ≠ '\r' then c :: universalNewlines cs
    else if cs.head? = some '\n' then universalNewlines cs
    else '\n' :: universalNewlines cs

/-- The characters of a file; none if its bytes are no text. -/
def decode (bytes : ByteArray) : Option (List Char) :=
  bytes.utf8Decode?.map fun cs => universalNewlines cs.toList

/-- `for line in handle`: the lines with their line breaks. -/
def lines : List Char → List (List Char)
  | [] => []
  | c :: cs =>
    if c = '\n' then [c] :: lines cs
    else
      match lines cs with
      | [] => [[c]]
      | line :: rest => (c :: line) :: rest

def closed (cs : List Char) : List Char := (cs.reverse.dropWhile (· ≠ '\n')).reverse

def openEnd (cs : List Char) : List Char := (cs.reverse.takeWhile (· ≠ '\n')).reverse

/-! ## Bytes -/

lemma encode_eq (cs : List Char) : encode cs = cs.utf8Encode := String.toByteArray_ofList

lemma encode_append (cs ds : List Char) : encode (cs ++ ds) = encode cs ++ encode ds := by
  rw [encode_eq, encode_eq, encode_eq, List.utf8Encode_append]

lemma utf8Decode?_encode (cs : List Char) : (encode cs).utf8Decode? = some cs.toArray := by
  rw [encode_eq, List.utf8Decode?_utf8Encode]

variable {bytes : ByteArray}

lemma encode_of_utf8Decode? {cs : Array Char}
    (h : bytes.utf8Decode? = some cs) : encode cs.toList = bytes := by
  have hget := ByteArray.utf8Encode_get_utf8Decode? (b := bytes) (h := by rw [h]; rfl)
  simp only [h, Option.get_some] at hget
  rw [encode_eq]
  exact hget

variable {cs ds : List Char}

lemma exists_encode_of_append
    (h : encode cs ++ bytes = encode ds) : ∃ es, bytes = encode es ∧ ds = cs ++ es := by
  rw [encode_eq, encode_eq] at h
  obtain ⟨es, rfl⟩ := List.isPrefix_of_utf8Encode_append_eq_utf8Encode bytes h
  rw [← encode_eq, ← encode_eq, encode_append] at h
  exact ⟨es, (ByteArray.append_right_inj _).mp h, rfl⟩

/-! ## Line breaks -/

/-- Line breaks are turned one by one, unless one of two characters is cut. -/
lemma universalNewlines_append {ds : List Char} (h : ds.head? ≠ some '\n') :
    ∀ cs : List Char, universalNewlines (cs ++ ds) = universalNewlines cs ++ universalNewlines ds
  | [] => rfl
  | c :: cs => by
    have hrest := universalNewlines_append h cs
    have hhead : (cs ++ ds).head? = some '\n' ↔ cs.head? = some '\n' := by
      cases cs with
      | nil => simp [h]
      | cons d cs => rfl
    simp only [List.cons_append, universalNewlines, hrest, hhead]
    split_ifs
    all_goals rfl

lemma universalNewlines_eq_self : ∀ {cs : List Char}, '\r' ∉ cs → universalNewlines cs = cs
  | [], _ => rfl
  | c :: cs, h => by
    rw [List.mem_cons, not_or] at h
    rw [universalNewlines, if_pos fun heq => h.1 heq.symm, universalNewlines_eq_self h.2]

lemma decode_encode (cs : List Char) : decode (encode cs) = some (universalNewlines cs) := by
  rw [decode, utf8Decode?_encode, Option.map_some]

lemma exists_of_decode {cs : List Char} (h : decode bytes = some cs) :
    ∃ ds, bytes = encode ds ∧ cs = universalNewlines ds := by
  obtain ⟨ds, hds, rfl⟩ := Option.map_eq_some_iff.mp h
  exact ⟨ds.toList, (encode_of_utf8Decode? hds).symm, rfl⟩

/-- **Bytes that are added to a text** are a text if they are one, and are read as such. -/
theorem decode_append (h : decode bytes = some cs)
    (hds : ds.head? ≠ some '\n') (hreturn : '\r' ∉ ds) :
    decode (bytes ++ encode ds) = some (cs ++ ds) := by
  obtain ⟨es, rfl, rfl⟩ := exists_of_decode h
  rw [← encode_append, decode_encode, universalNewlines_append hds, universalNewlines_eq_self hreturn]

/-- What is left of a text after some of its bytes is a text, or the bytes before it are none. -/
lemma exists_of_decode_append {bytes added whole : ByteArray} {cs ds es : List Char}
    (hbytes : decode bytes = some cs) (h : decode (bytes ++ added) = some ds)
    (hwhole : added ++ whole = encode es) : ∃ fs, added = encode fs ∧ fs <+: es := by
  obtain ⟨as, rfl, -⟩ := exists_of_decode hbytes
  obtain ⟨bs, hbs, -⟩ := exists_of_decode h
  obtain ⟨fs, rfl, -⟩ := exists_encode_of_append hbs
  obtain ⟨gs, -, rfl⟩ := exists_encode_of_append hwhole
  exact ⟨fs, rfl, gs, rfl⟩

/-! ## Lines -/

/-- The text ends with a line break, or there is none. -/
def EndsLine (cs : List Char) : Prop := cs = [] ∨ cs.getLast? = some '\n'

lemma lines_cons_of_ne {c : Char} {cs line : List Char} {rest : List (List Char)} (hc : c ≠ '\n')
    (h : lines cs = line :: rest) : lines (c :: cs) = (c :: line) :: rest := by
  rw [lines, if_neg hc, h]

lemma exists_lines_cons (c : Char) (cs : List Char) : ∃ line rest, lines (c :: cs) = line :: rest := by
  rw [lines]
  split_ifs
  · exact ⟨_, _, rfl⟩
  · split
    · exact ⟨_, _, rfl⟩
    · exact ⟨_, _, rfl⟩

/-- **What stands after a line break begins a line.** -/
theorem lines_append : ∀ {cs : List Char}, EndsLine cs → ∀ ds,
    lines (cs ++ ds) = lines cs ++ lines ds
  | [], _, _ => rfl
  | c :: cs, h, ds => by
    by_cases hc : c = '\n'
    · have hcs : EndsLine cs := by
        cases cs with
        | nil => exact .inl rfl
        | cons d cs => exact .inr (by simpa [EndsLine] using h)
      rw [List.cons_append, lines, if_pos hc, lines_append hcs, lines, if_pos hc, List.cons_append]
    · cases cs with
      | nil => simp [EndsLine, hc] at h
      | cons d cs =>
        have hcs : EndsLine (d :: cs) := .inr (by simpa [EndsLine] using h)
        obtain ⟨line, rest, hlines⟩ := exists_lines_cons d cs
        have happend := lines_append hcs ds
        rw [hlines] at happend
        rw [List.cons_append, lines_cons_of_ne hc happend, lines_cons_of_ne hc hlines]
        rfl

lemma lines_of_notMem : ∀ {cs : List Char}, cs ≠ [] → '\n' ∉ cs → lines cs = [cs]
  | [c], _, h => by
    rw [lines, if_neg fun heq => h (by simp [heq])]
    rfl
  | c :: d :: cs, _, h => by
    have hrest : lines (d :: cs) = [d :: cs] := lines_of_notMem (by simp) fun hmem =>
      h (List.mem_cons_of_mem c hmem)
    rw [lines, if_neg fun heq => h (by simp [heq]), hrest]

lemma lines_break : ∀ {cs : List Char}, '\n' ∉ cs → lines (cs ++ ['\n']) = [cs ++ ['\n']]
  | [], _ => rfl
  | c :: cs, h => by
    have hrest : lines (cs ++ ['\n']) = [cs ++ ['\n']] :=
      lines_break fun hmem => h (List.mem_cons_of_mem c hmem)
    rw [List.cons_append, lines, if_neg fun heq => h (by simp [heq]), hrest]

lemma closed_append_openEnd (cs : List Char) : closed cs ++ openEnd cs = cs := by
  rw [closed, openEnd, ← List.reverse_append, List.takeWhile_append_dropWhile, List.reverse_reverse]

lemma endsLine_closed (cs : List Char) : EndsLine (closed cs) := by
  unfold EndsLine closed
  cases hdrop : cs.reverse.dropWhile (· ≠ '\n') with
  | nil => exact .inl rfl
  | cons c rest =>
    have hhead := List.head?_dropWhile_not (p := (· ≠ '\n')) cs.reverse
    rw [hdrop] at hhead
    exact .inr (by simpa using hhead)

lemma break_notMem_openEnd (cs : List Char) : '\n' ∉ openEnd cs := by
  intro hmem
  rw [openEnd, List.mem_reverse] at hmem
  have hall := List.all_eq_true.mp List.all_takeWhile _ hmem
  exact absurd hall (by decide)

lemma lines_eq (cs : List Char) : lines cs = lines (closed cs) ++ lines (openEnd cs) := by
  conv_lhs => rw [← closed_append_openEnd cs]
  exact lines_append (endsLine_closed cs) _

/-- A line that is added goes on with what stands after the last line break. -/
lemma lines_append_break (h : '\n' ∉ ds) :
    lines (cs ++ (ds ++ ['\n'])) = lines (closed cs) ++ [openEnd cs ++ (ds ++ ['\n'])] := by
  have hline : '\n' ∉ openEnd cs ++ ds := by
    rw [List.mem_append, not_or]
    exact ⟨break_notMem_openEnd cs, h⟩
  have hsplit : cs ++ (ds ++ ['\n']) = closed cs ++ (openEnd cs ++ ds ++ ['\n']) := by
    conv_lhs => rw [← closed_append_openEnd cs]
    simp only [List.append_assoc]
  rw [hsplit, lines_append (endsLine_closed cs), lines_break hline, List.append_assoc]

lemma openEnd_append (cs : List Char) {ds : List Char} (h : '\n' ∉ ds) :
    openEnd (cs ++ ds) = openEnd cs ++ ds := by
  have hall : ∀ c ∈ ds.reverse, (decide (c ≠ '\n')) = true := by
    intro c hc
    exact decide_eq_true fun heq => h (heq ▸ List.mem_reverse.mp hc)
  rw [openEnd, List.reverse_append, List.takeWhile_append_of_pos hall, List.reverse_append,
    List.reverse_reverse, openEnd]

lemma openEnd_break (cs ds : List Char) : openEnd (cs ++ (ds ++ ['\n'])) = [] := by
  simp [openEnd]

end Python
