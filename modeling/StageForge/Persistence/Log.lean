import StageForge.Library.Json
import StageForge.Library.TextFile

/-!
# Hash-linked logs

A log is a text file with one record a line. A record names the hash of the one before it, and its own
hash is that of both. The verifier skips blank lines and reads the others in order.
-/

namespace StageForge

open Python

-- A statement about the characters of a text is decided along the text, not over all characters.
attribute [local instance (high)] List.decidableBAll

-- Files are compared as the core library compares byte arrays.
attribute [local instance (high)] ByteArray.instDecidableEq

/-- What `hexdigest` of SHA-256 returns: sixty-four hexadecimal digits. -/
def IsDigest (hash : String) : Prop :=
  hash.length = 64 ∧ ∀ c ∈ hash.toList, c ∈ "0123456789abcdef".toList

instance (hash : String) : Decidable (IsDigest hash) := by unfold IsDigest; infer_instance

structure LogSetup where
  floats : FloatText
  reader : FloatReader floats
  conversions : Conversions
  /-- `hashlib.sha256(data).hexdigest()`. -/
  sha256 : ByteArray → String
  hexdigest : ∀ data, IsDigest (sha256 data)

/-- A Python `dict` that can be written as JSON. -/
abbrev LogEvent := { entries : List (String × Value) // (Value.dict entries).Distinct }

def LogEvent.value (event : LogEvent) : Value := .dict event.val

def zeroHash : String := String.ofList (List.replicate 64 '0')

/-- `s.encode("ascii", "replace")`. -/
def asciiReplace (s : String) : ByteArray :=
  encode (s.toList.map fun c => if c.toNat < 128 then c else '?')

/-- `not line.strip()`. -/
def blankLine (line : List Char) : Bool := line.all isSpace

/-- The text after the last line break of a file. -/
def unfinished (file : Option ByteArray) : List Char :=
  openEnd ((decode (file.getD ByteArray.empty)).getD [])

namespace LogSetup

variable (S : LogSetup)

def canonical (value : Value) : ByteArray := encode (text S.floats value.canon)

def recordHash (previousHash : String) (event : Value) : String :=
  S.sha256 (asciiReplace previousHash ++ encode ['\n'] ++ S.canonical event)

def record (previousHash : String) (event : Value) : Value :=
  .dict [("event", event), ("previousHash", .str previousHash),
    ("hash", .str (S.recordHash previousHash event))]

def encoded (previousHash : String) (event : Value) : List Char :=
  text S.floats (S.record previousHash event).canon ++ ['\n']

/-- `_last_hash`; none if the file is no text. -/
def lastHash (file : Option ByteArray) (initialHash : String) : Option String := match file with
  | none => some initialHash
  | some bytes =>
    (decode bytes).map fun cs =>
      match ((lines cs).filter fun line => !blankLine line).getLast? with
      | none => initialHash
      | some last =>
        match loads S.reader last with
        | none => "INVALID"
        | some record =>
          match record.item "hash" with
          | .ok hash => S.conversions.str hash
          | .error _ => "INVALID"

/-- `_append_hash_linked`: the file it leaves, and the record. -/
def appendHashLinked (file : Option ByteArray) (event : LogEvent) (initialHash : String) :
    Option (ByteArray × Value) :=
  (S.lastHash file initialHash).map fun previousHash =>
    (file.getD ByteArray.empty ++ encode (S.encoded previousHash event.value),
      S.record previousHash event.value)

/-- What the verifier reports. An exception that it catches is reported with its text, which is left
out here. -/
inductive VerifyReport
  | ok (records : ℕ) (head : String)
  | mismatch (records line : ℕ) (error : String)
  | raised
  deriving DecidableEq

/-- The loop of `_verify_hash_linked`. -/
def verifyLines (previousHash : String) (count lineNumber : ℕ) : List (List Char) → VerifyReport
  | [] => .ok count previousHash
  | line :: rest =>
    if blankLine line then verifyLines previousHash count (lineNumber + 1) rest
    else
      match loads S.reader line with
      | none => .raised
      | some record =>
        match record.item "event" with
        | .error _ => .raised
        | .ok event =>
          let expected := S.recordHash previousHash event
          if record.get? "previousHash" ≠ some (.str previousHash) then
            .mismatch count lineNumber "previous hash mismatch"
          else if record.get? "hash" ≠ some (.str expected) then
            .mismatch count lineNumber "record hash mismatch"
          else verifyLines expected (count + 1) (lineNumber + 1) rest

def verifyHashLinked (file : Option ByteArray) (initialHash : String) : VerifyReport :=
  match file with
  | none => .ok 0 initialHash
  | some bytes =>
    match decode bytes with
    | none => .raised
    | some cs => S.verifyLines initialHash 0 1 (lines cs)

/-! ## Chains -/

structure Links (previousHash : String) (record event : Value) : Prop where
  item : record.item "event" = .ok event
  previous : record.get? "previousHash" = some (.str previousHash)
  hash : record.get? "hash" = some (.str (S.recordHash previousHash event))

/-- Lines that are records of events, each linked to the one before. -/
inductive Chain : String → List (List Char) → List Value → String → Prop
  | nil {previousHash : String} : Chain previousHash [] [] previousHash
  | blank {previousHash head : String} {line : List Char} {rest : List (List Char)}
      {events : List Value} : blankLine line = true → Chain previousHash rest events head →
      Chain previousHash (line :: rest) events head
  | link {previousHash head : String} {line : List Char} {rest : List (List Char)}
      {events : List Value} {record event : Value} : blankLine line = false →
      loads S.reader line = some record → S.Links previousHash record event →
      Chain (S.recordHash previousHash event) rest events head →
      Chain previousHash (line :: rest) (event :: events) head

def FileChain (previousHash : String) (file : Option ByteArray) (events : List Value)
    (head : String) : Prop :=
  ∃ cs, decode (file.getD ByteArray.empty) = some cs ∧ S.Chain previousHash (lines cs) events head

def headAfter (previousHash : String) (events : List Value) : String :=
  events.foldl S.recordHash previousHash

variable {S} {previousHash head : String} {ls : List (List Char)} {events : List Value}

/-- **The verifier accepts chains.** By induction on the lines. -/
theorem verifyLines_ok_iff {count lineNumber records : ℕ} :
    S.verifyLines previousHash count lineNumber ls = .ok records head ↔
      ∃ events, S.Chain previousHash ls events head ∧ records = count + events.length := by
  induction ls generalizing previousHash count lineNumber with
  | nil =>
    constructor
    · intro h
      obtain ⟨rfl, rfl⟩ := VerifyReport.ok.inj h
      exact ⟨[], .nil, rfl⟩
    · rintro ⟨events, hchain, rfl⟩
      cases hchain
      rfl
  | cons line rest ih =>
    rw [verifyLines]
    cases hblank : blankLine line with
    | true =>
      rw [if_pos rfl, ih]
      constructor
      · rintro ⟨events, hchain, hcount⟩
        exact ⟨events, .blank hblank hchain, hcount⟩
      · rintro ⟨events, hchain, hcount⟩
        cases hchain with
        | blank _ hchain => exact ⟨events, hchain, hcount⟩
        | link hline => exact absurd (hline.symm.trans hblank) (by decide)
    | false =>
      rw [if_neg (by decide)]
      constructor
      · intro h
        split at h
        · cases h
        · rename_i record hloads
          split at h
          · cases h
          · rename_i event hevent
            simp only at h
            split_ifs at h with hprevious hhash
            obtain ⟨events, hchain, hcount⟩ := ih.mp h
            rw [not_not] at hprevious hhash
            refine ⟨event :: events, .link hblank hloads ⟨hevent, hprevious, hhash⟩ hchain, ?_⟩
            rw [hcount, List.length_cons]
            omega
      · rintro ⟨events, hchain, hcount⟩
        cases hchain with
        | blank hline => exact absurd (hblank.symm.trans hline) (by decide)
        | link _ hloads hlinks hchain =>
          rw [hloads]
          simp only [hlinks.item]
          rw [if_neg (not_not.mpr hlinks.previous), if_neg (not_not.mpr hlinks.hash), ih]
          refine ⟨_, hchain, ?_⟩
          rw [hcount, List.length_cons]
          omega

variable {file : Option ByteArray}

theorem verifyHashLinked_ok_iff {records : ℕ} :
    S.verifyHashLinked file previousHash = .ok records head ↔
      ∃ events, S.FileChain previousHash file events head ∧ records = events.length := by
  cases file with
  | none =>
    have hempty : decode (Option.getD none ByteArray.empty) = some [] := decode_encode []
    constructor
    · intro h
      obtain ⟨rfl, rfl⟩ := VerifyReport.ok.inj h
      exact ⟨[], ⟨[], hempty, .nil⟩, rfl⟩
    · rintro ⟨events, ⟨cs, hcs, hchain⟩, rfl⟩
      rw [hempty, Option.some.injEq] at hcs
      subst hcs
      cases hchain
      rfl
  | some bytes =>
    rw [verifyHashLinked]
    simp only [FileChain, Option.getD_some]
    cases hdecode : decode bytes with
    | none => simp
    | some cs =>
      simp only [Option.some.injEq, exists_eq_left', verifyLines_ok_iff, Nat.zero_add]

variable (S) in
lemma headAfter_append (previousHash : String) (events more : List Value) :
    S.headAfter previousHash (events ++ more) =
      S.headAfter (S.headAfter previousHash events) more := List.foldl_append

/-! ## Links of a chain -/

lemma Chain.append {middle : String} {ms : List (List Char)} {more : List Value}
    (h : S.Chain previousHash ls events middle) (hmore : S.Chain middle ms more head) :
    S.Chain previousHash (ls ++ ms) (events ++ more) head := by
  induction h with
  | nil => exact hmore
  | blank hblank _ ih => exact .blank hblank (ih hmore)
  | link hblank hloads hlinks _ ih => exact .link hblank hloads hlinks (ih hmore)

lemma Chain.split {ms : List (List Char)} (h : S.Chain previousHash (ls ++ ms) events head) :
    ∃ before middle after, S.Chain previousHash ls before middle ∧ S.Chain middle ms after head ∧
      events = before ++ after := by
  induction ls generalizing previousHash events with
  | nil => exact ⟨[], previousHash, events, .nil, h, rfl⟩
  | cons line ls ih =>
    cases h with
    | blank hblank h =>
      obtain ⟨before, middle, after, hbefore, hafter, rfl⟩ := ih h
      exact ⟨before, middle, after, .blank hblank hbefore, hafter, rfl⟩
    | link hblank hloads hlinks h =>
      obtain ⟨before, middle, after, hbefore, hafter, rfl⟩ := ih h
      exact ⟨_, middle, after, .link hblank hloads hlinks hbefore, hafter, rfl⟩

lemma Chain.head_eq (h : S.Chain previousHash ls events head) :
    head = S.headAfter previousHash events := by
  induction h with
  | nil => rfl
  | blank _ _ ih => exact ih
  | link _ _ _ _ ih => exact ih

lemma Chain.of_blank (hblank : ∀ line ∈ ls, blankLine line = true)
    (h : S.Chain previousHash ls events head) : events = [] ∧ head = previousHash := by
  induction h with
  | nil => exact ⟨rfl, rfl⟩
  | blank _ _ ih => exact ih fun line hline => hblank line (List.mem_cons_of_mem _ hline)
  | link hline =>
    exact absurd (hline.symm.trans (hblank _ List.mem_cons_self)) (by decide)

/-! ## Appending -/

variable (S)

@[simp] lemma recordHash_canon (previousHash : String) (event : Value) :
    S.recordHash previousHash event.canon = S.recordHash previousHash event := by
  rw [recordHash, canonical, Value.canon_canon]
  rfl

lemma record_canon (previousHash : String) (event : Value) : (S.record previousHash event).canon =
      .dict [("event", event.canon), ("hash", .str (S.recordHash previousHash event)),
        ("previousHash", .str previousHash)] := by
  have horder : "previousHash" ≤ "hash" ↔ False := by decide +kernel
  have horder' : "event" ≤ "hash" := by decide +kernel
  simp [record, Value.canon, Value.canonEntries, List.insertionSort, List.orderedInsert, horder,
    horder']

lemma distinct_record (previousHash : String) (event : LogEvent) :
    (S.record previousHash event.value).canon.Distinct := by
  have hkeys : ["event", "previousHash", "hash"].Nodup := by decide
  exact Value.distinct_canon ⟨hkeys, event.property, trivial, trivial, trivial⟩

lemma links_record (previousHash : String) (event : Value) :
    S.Links previousHash (S.record previousHash event).canon event.canon := by
  rw [record_canon]
  exact ⟨rfl, rfl, by rw [recordHash_canon]; rfl⟩

lemma text_record_head (previousHash : String) (event : Value) :
    ∃ rest, text S.floats (S.record previousHash event).canon = '{' :: rest := by
  rw [record_canon, text]
  exact ⟨_, rfl⟩

lemma lineBreaks_notMem_text (v : Value) : '\n' ∉ text S.floats v ∧ '\r' ∉ text S.floats v :=
  ⟨fun h => absurd (text_printable v _ h) (by decide),
    fun h => absurd (text_printable v _ h) (by decide)⟩

/-- **The line of a record is a link**, with blanks around it too. -/
lemma chain_record (previousHash : String) (event : LogEvent) {before after : List Char}
    (hbefore : skip before = []) (hafter : skip after = []) :
    S.Chain previousHash
      [before ++ (text S.floats (S.record previousHash event.value).canon ++ after)]
      [event.value.canon] (S.recordHash previousHash event.value) := by
  obtain ⟨rest, hrest⟩ := S.text_record_head previousHash event.value
  have hblank : blankLine
      (before ++ (text S.floats (S.record previousHash event.value).canon ++ after)) = false := by
    simp [blankLine, hrest, show isSpace '{' = false by decide]
  have hloads := loads_text S.reader (S.distinct_record previousHash event) hbefore hafter
  have hlink := Chain.link hblank hloads (S.links_record previousHash event.value) .nil
  rw [recordHash_canon] at hlink
  exact hlink

variable {S}

lemma chain_closed {cs : List Char} (h : S.Chain previousHash (lines cs) events head)
    (hopen : skip (openEnd cs) = []) : S.Chain previousHash (lines (closed cs)) events head := by
  have hspace : ∀ c, isBlank c = true → isSpace c = true := by
    intro c hc
    simp only [isBlank, Bool.or_eq_true, decide_eq_true_eq] at hc
    rcases hc with ((rfl | rfl) | rfl) | rfl
    all_goals decide
  have hblank : ∀ line ∈ lines (openEnd cs), blankLine line = true := by
    intro line hline
    by_cases hnil : openEnd cs = []
    · rw [hnil] at hline
      exact absurd hline (by simp [lines])
    · rw [lines_of_notMem hnil (break_notMem_openEnd cs), List.mem_singleton] at hline
      rw [hline, blankLine, List.all_eq_true]
      exact fun c hc => hspace c (List.dropWhile_eq_nil_iff.mp hopen c hc)
  rw [lines_eq] at h
  obtain ⟨before, middle, after, hbefore, hafter, rfl⟩ := h.split
  obtain ⟨rfl, rfl⟩ := hafter.of_blank hblank
  rw [List.append_nil]
  exact hbefore

theorem fileChain_append (h : S.FileChain previousHash file events head)
    (hblank : skip (unfinished file) = []) (event : LogEvent) :
    S.FileChain previousHash
        (some (file.getD ByteArray.empty ++ encode (S.encoded head event.value)))
        (events ++ [event.value.canon]) (S.recordHash head event.value) ∧
      unfinished (some (file.getD ByteArray.empty ++ encode (S.encoded head event.value))) = [] := by
  obtain ⟨cs, hcs, hchain⟩ := h
  have hopen : skip (openEnd cs) = [] := by
    rw [unfinished, hcs, Option.getD_some] at hblank
    exact hblank
  obtain ⟨rest, hrest⟩ := S.text_record_head head event.value
  have hbreaks := S.lineBreaks_notMem_text (S.record head event.value).canon
  have hdecode : decode (file.getD ByteArray.empty ++ encode (S.encoded head event.value)) =
      some (cs ++ S.encoded head event.value) := by
    refine decode_append hcs ?_ ?_
    · rw [encoded, hrest]
      exact fun heq => absurd (Option.some.inj heq) (by decide)
    · rw [encoded, List.mem_append, not_or]
      exact ⟨hbreaks.2, by decide⟩
  refine ⟨⟨_, hdecode, ?_⟩, ?_⟩
  · rw [encoded, lines_append_break hbreaks.1]
    exact (chain_closed hchain hopen).append (S.chain_record head event hopen (by decide))
  · rw [unfinished, Option.getD_some, hdecode, Option.getD_some, encoded, openEnd_break]

lemma Chain.last (h : S.Chain previousHash ls events head) :
    match (ls.filter fun line => !blankLine line).getLast? with
    | none => head = previousHash
    | some last => ∃ record, loads S.reader last = some record ∧ record.item "hash" = .ok (.str head) := by
  induction h with
  | nil => rfl
  | blank hblank _ ih =>
    rw [List.filter_cons, hblank]
    exact ih
  | @link previousHash head line rest events record event hblank hloads hlinks _ ih =>
    rw [List.filter_cons, hblank, Bool.not_false, if_pos rfl, List.getLast?_cons]
    cases hlast : (rest.filter fun line => !blankLine line).getLast? with
    | none =>
      rw [hlast] at ih
      refine ⟨record, hloads, ?_⟩
      have hhash := hlinks.hash
      cases record with
      | dict entries =>
        rw [Value.get?] at hhash
        simp only [Value.entries] at hhash
        rw [Value.item, hhash, ih]
      | _ => exact absurd hhash (by simp [Value.get?, Value.entries])
    | some last =>
      rw [hlast] at ih
      exact ih

lemma lastHash_of_chain (h : S.FileChain previousHash file events head) :
    S.lastHash file previousHash = some head := by
  obtain ⟨cs, hcs, hchain⟩ := h
  cases file with
  | none =>
    have hempty : decode (Option.getD none ByteArray.empty) = some [] := decode_encode []
    rw [hempty, Option.some.injEq] at hcs
    subst hcs
    cases hchain
    rfl
  | some bytes =>
    have hlast := hchain.last
    rw [lastHash, show decode bytes = some cs from hcs, Option.map_some, Option.some.injEq]
    split at hlast
    · exact hlast.symm
    · obtain ⟨record, hloads, hitem⟩ := hlast
      simp only [hloads, hitem, Conversions.str]

end LogSetup

/-! ## A small log -/

def exampleDecision (decision : String) : LogEvent :=
  ⟨[("type", .str "http-authorization"), ("decision", .str decision)],
    by simp [Value.Distinct, Value.DistinctEntries]⟩

/-- The texts that the runs below hash, with their digests. -/
def exampleLogDigests : List (String × String) :=
  [(zeroHash ++ "\n\x7b\"decision\":\"allow\",\"type\":\"http-authorization\"\x7d",
      "7e8ad46769b8bf270f8db7653eb3479e7ccd2cbd82c55ab197fc03bde7e7b813"),
    ("7e8ad46769b8bf270f8db7653eb3479e7ccd2cbd82c55ab197fc03bde7e7b813" ++
        "\n\x7b\"decision\":\"deny\",\"type\":\"http-authorization\"\x7d",
      "c896810f57614b0ffb9067ab02ce141872e009b997cacd6f9d6076046b988b24")]

def exampleLog : LogSetup where
  floats := .fractions
  reader := .fractions
  conversions := ⟨fun _ => "None", fun _ => none, fun _ => none⟩
  sha256 data := ((exampleLogDigests.find? fun d => d.1.toUTF8 = data).map Prod.snd).getD zeroHash
  hexdigest data := by
    have hall : ∀ d ∈ exampleLogDigests, IsDigest d.2 := by decide +kernel
    cases hfind : exampleLogDigests.find? fun d => d.1.toUTF8 = data with
    | none => exact (by decide +kernel : IsDigest zeroHash)
    | some d => exact hall d (List.mem_of_find?_eq_some hfind)

end StageForge
