import StageForge.Persistence.CrashSafety

/-!
# Torn appends

A write that is interrupted leaves a beginning of the line of a record at the end of a log.
-/

namespace StageForge

open Python

attribute [local instance (high)] ByteArray.instDecidableEq

namespace LogSetup

variable (S : LogSetup)

/-- The line of a record without its line break. -/
def recordText (previousHash : String) (event : Value) : List Char :=
  text S.floats (S.record previousHash event).canon

/-- What an interrupted write leaves of a record: its first bytes, and not all of them. -/
def IsTorn (head : String) (event : LogEvent) (written : ByteArray) : Prop :=
  ∃ rest, rest ≠ ByteArray.empty ∧ written ++ rest = encode (S.encoded head event.value)

def torn (file : Option ByteArray) (written : ByteArray) : Option ByteArray :=
  some (file.getD ByteArray.empty ++ written)

variable {S} {previousHash head : String} {events : List Value} {file : Option ByteArray}

lemma encoded_ne_nil (previousHash : String) (event : Value) :
    S.encoded previousHash event ≠ [] := by
  simp [encoded]

lemma encoded_eq (previousHash : String) (event : Value) :
    S.encoded previousHash event = S.recordText previousHash event ++ ['\n'] := rfl

lemma loads_openEnd_append {cs : List Char} (h : S.Chain previousHash (lines cs) events head)
    (hopen : skip (openEnd cs) ≠ []) (t : List Char) :
    loads S.reader (openEnd cs ++ '{' :: t) = none := by
  have hne : openEnd cs ≠ [] := fun hnil => hopen (by rw [hnil]; rfl)
  rw [lines_eq, lines_of_notMem hne (break_notMem_openEnd cs)] at h
  obtain ⟨before, middle, after, -, hlast, -⟩ := h.split
  cases hlast with
  | blank hblank _ =>
    cases hskip : skip (openEnd cs) with
    | nil => exact absurd hskip hopen
    | cons c rest =>
      have hmem : c ∈ skip (openEnd cs) := hskip ▸ List.mem_cons_self
      have hspace : isSpace c = true :=
        List.all_eq_true.mp hblank c ((List.dropWhile_suffix isBlank).subset hmem)
      have hc : c ∉ ['"', '[', '{'] := by
        intro hmem
        simp only [List.mem_cons, List.not_mem_nil, or_false] at hmem
        rcases hmem with rfl | rfl | rfl
        all_goals exact absurd hspace (by decide)
      have hwhole : skip (openEnd cs ++ '{' :: t) = c :: (rest ++ '{' :: t) := by
        rw [skip_append (hskip ▸ List.cons_ne_nil c rest), hskip, List.cons_append]
      exact loads_of_word S.reader hwhole hc
        (List.mem_append_right rest List.mem_cons_self) (by decide) (by decide)
  | @link _ _ _ _ _ record event _ hloads hlinks _ =>
    have hword : record.isWord = false := by
      have hitem := hlinks.item
      cases record with
      | dict entries => rfl
      | _ => exact absurd hitem (by simp [Value.item])
    refine loads_append S.reader hloads hword ?_
    rw [skip_of_not_blank (by decide)]
    exact List.cons_ne_nil _ _

lemma not_fileChain_append {cs ds : List Char}
    (hcs : decode (file.getD ByteArray.empty) = some cs) {t : List Char} (hds : ds = '{' :: t)
    (hreturn : '\r' ∉ ds) (hline : lines (openEnd cs ++ ds) = [openEnd cs ++ ds])
    (hloads : loads S.reader (openEnd cs ++ ds) = none) :
    ∀ previousHash events head, ¬ S.FileChain previousHash (torn file (encode ds)) events head := by
  rintro previousHash events head ⟨es, hes, hchain⟩
  rw [torn, Option.getD_some, decode_append hcs (by rw [hds]; simp) hreturn,
    Option.some.injEq] at hes
  subst hes
  have hsplit : cs ++ ds = closed cs ++ (openEnd cs ++ ds) := by
    rw [← List.append_assoc, closed_append_openEnd]
  rw [hsplit, lines_append (endsLine_closed cs), hline] at hchain
  obtain ⟨before, middle, after, -, hlast, -⟩ := hchain.split
  cases hlast with
  | blank hblank _ => simp [blankLine, hds, show isSpace '{' = false by decide] at hblank
  | link _ hsome => simp [hloads] at hsome

lemma exists_recordText (previousHash : String) (event : Value) :
    ∃ t, S.recordText previousHash event = '{' :: t := S.text_record_head previousHash event

variable {event : LogEvent}

lemma prefix_encoded {fs : List Char} (hfs : fs ≠ []) {link : String}
    (hbegins : fs <+: S.encoded link event.value) :
    (∃ t, fs = '{' :: t) ∧ '\r' ∉ fs ∧ ∀ cs, lines (openEnd cs ++ fs) = [openEnd cs ++ fs] := by
  obtain ⟨t, ht⟩ := exists_recordText (S := S) link event.value
  have hbreaks := S.lineBreaks_notMem_text (S.record link event.value).canon
  refine ⟨?_, fun hmem => ?_, fun cs => ?_⟩
  · obtain ⟨c, fs, rfl⟩ := List.exists_cons_of_ne_nil hfs
    obtain ⟨s, hs⟩ := hbegins
    rw [encoded_eq, ht] at hs
    exact ⟨fs, by rw [(List.cons.inj hs).1]⟩
  · have hmem := hbegins.subset hmem
    rw [encoded, List.mem_append] at hmem
    exact hmem.elim hbreaks.2 (by decide)
  · rw [encoded, List.prefix_concat_iff] at hbegins
    rcases hbegins with rfl | hbegins
    · rw [← List.append_assoc]
      refine lines_break fun hmem => ?_
      exact (List.mem_append.mp hmem).elim (break_notMem_openEnd cs) hbreaks.1
    · refine lines_of_notMem (by simp [hfs]) fun hmem => ?_
      exact (List.mem_append.mp hmem).elim (break_notMem_openEnd cs)
        fun hmem => hbreaks.1 (hbegins.subset hmem)

/-- **A record after an unfinished line** is lost, and with it the log. -/
theorem not_fileChain_of_unfinished (hfile : S.FileChain previousHash file events head)
    (hopen : skip (unfinished file) ≠ []) {fs : List Char} (hfs : fs ≠ [])
    {link : String} (hbegins : fs <+: S.encoded link event.value) :
    ∀ previousHash events head, ¬ S.FileChain previousHash (torn file (encode fs)) events head := by
  obtain ⟨cs, hcs, hchain⟩ := hfile
  rw [unfinished, hcs, Option.getD_some] at hopen
  obtain ⟨⟨t, rfl⟩, hreturn, hline⟩ := prefix_encoded hfs hbegins
  exact not_fileChain_append hcs rfl hreturn (hline cs) (loads_openEnd_append hchain hopen t)

variable {written : ByteArray}

/-- **The beginnings of a record** that a log is left with. -/
theorem torn_cases (hfile : S.FileChain previousHash file events head)
    (htorn : S.IsTorn head event written) :
    (∀ previousHash events head, ¬ S.FileChain previousHash (torn file written) events head) ∨
      written = ByteArray.empty ∨
      skip (unfinished file) = [] ∧ written = encode (S.recordText head event.value) := by
  obtain ⟨rest, hrest, hwhole⟩ := htorn
  obtain ⟨cs, hcs, hchain⟩ := hfile
  cases hdecode : decode (file.getD ByteArray.empty ++ written) with
  | none =>
    left
    rintro previousHash events head ⟨ds, hds, -⟩
    exact absurd (hdecode.symm.trans hds) (by simp)
  | some ds =>
    obtain ⟨fs, rfl, hbegins⟩ := exists_of_decode_append hcs hdecode hwhole
    by_cases hfs : fs = []
    · right; left
      rw [hfs, encode_eq, List.utf8Encode_nil]
    by_cases hopen : skip (unfinished file) = []
    · have hproper : fs <+: S.recordText head event.value := by
        rw [encoded_eq, List.prefix_concat_iff] at hbegins
        refine hbegins.resolve_left fun hequal => hrest ?_
        rw [hequal, ← encoded_eq] at hwhole
        exact (ByteArray.append_right_inj _).mp (hwhole.trans ByteArray.append_empty.symm)
      by_cases hequal : fs = S.recordText head event.value
      · exact .inr (.inr ⟨hopen, by rw [hequal]⟩)
      · left
        obtain ⟨⟨t, ht⟩, hreturn, hline⟩ := prefix_encoded hfs hbegins
        obtain ⟨gs, hgs⟩ := hproper
        have hopen' : skip (openEnd cs) = [] := by
          rw [unfinished, hcs, Option.getD_some] at hopen
          exact hopen
        have hloads := loads_of_prefix S.reader (S.distinct_record head event)
          (by rw [record_canon]; rfl) hopen' hgs hfs fun hnil => hequal (by
            rw [← hgs, hnil, List.append_nil])
        exact not_fileChain_append hcs ht hreturn (hline cs) hloads
    · exact .inl (not_fileChain_of_unfinished ⟨cs, hcs, hchain⟩ hopen hfs hbegins)

theorem fileChain_torn (hfile : S.FileChain previousHash file events head)
    (hblank : skip (unfinished file) = []) (event : LogEvent) :
    S.FileChain previousHash (torn file (encode (S.recordText head event.value)))
        (events ++ [event.value.canon]) (S.recordHash head event.value) ∧
      skip (unfinished (torn file (encode (S.recordText head event.value)))) ≠ [] := by
  obtain ⟨cs, hcs, hchain⟩ := hfile
  have hopen : skip (openEnd cs) = [] := by
    rw [unfinished, hcs, Option.getD_some] at hblank
    exact hblank
  obtain ⟨t, ht⟩ := exists_recordText (S := S) head event.value
  have hbreaks : '\n' ∉ S.recordText head event.value ∧ '\r' ∉ S.recordText head event.value :=
    S.lineBreaks_notMem_text _
  have hdecode : decode (file.getD ByteArray.empty ++ encode (S.recordText head event.value)) =
      some (cs ++ S.recordText head event.value) :=
    decode_append hcs (by rw [ht]; simp) hbreaks.2
  have hline : lines (cs ++ S.recordText head event.value) =
      lines (closed cs) ++ [openEnd cs ++ S.recordText head event.value] := by
    have hnotMem : '\n' ∉ openEnd cs ++ S.recordText head event.value := by
      rw [List.mem_append, not_or]
      exact ⟨break_notMem_openEnd cs, hbreaks.1⟩
    conv_lhs => rw [← closed_append_openEnd cs]
    rw [List.append_assoc, lines_append (endsLine_closed cs),
      lines_of_notMem (by simp [ht]) hnotMem]
  refine ⟨⟨_, hdecode, ?_⟩, ?_⟩
  · have hlink := S.chain_record head event hopen (show skip [] = [] from rfl)
    rw [List.append_nil] at hlink
    rw [hline]
    exact (chain_closed hchain hopen).append hlink
  · rw [unfinished, torn, Option.getD_some, hdecode, Option.getD_some, openEnd_append _ hbreaks.1,
      skip_blank_append hopen, ht, skip_of_not_blank (by decide)]
    exact List.cons_ne_nil _ _

/-! ## What an interrupted write leaves -/

variable (S)

/-- The write leaves an unfinished line that is accepted: nothing after a line that was unfinished
before, or all of a record but its line break. -/
def LeavesUnfinished (file : Option ByteArray) (head : String) (event : LogEvent)
    (written : ByteArray) : Prop :=
  (skip (unfinished file) = [] ∧ written = encode (S.recordText head event.value)) ∨
    (skip (unfinished file) ≠ [] ∧ written = ByteArray.empty)

/-- The hash of the last record that a torn log is accepted with. -/
def tornHead (head : String) (event : LogEvent) (written : ByteArray) : String :=
  if written = ByteArray.empty then head else S.recordHash head event.value

variable {S}

lemma torn_empty (file : Option ByteArray) :
    (torn file ByteArray.empty).getD ByteArray.empty = file.getD ByteArray.empty := by
  rw [torn, Option.getD_some, ByteArray.append_empty]

lemma fileChain_torn_empty : S.FileChain previousHash (torn file ByteArray.empty) events head ↔
      S.FileChain previousHash file events head := by
  rw [FileChain, FileChain, torn_empty]

lemma unfinished_torn_empty : unfinished (torn file ByteArray.empty) = unfinished file := by
  rw [unfinished, unfinished, torn_empty]

lemma LeavesUnfinished.fileChain (h : S.LeavesUnfinished file head event written)
    (hfile : S.FileChain previousHash file events head) :
    ∃ more, S.FileChain previousHash (torn file written) (events ++ more)
        (S.tornHead head event written) ∧
      skip (unfinished (torn file written)) ≠ [] := by
  rcases h with ⟨hblank, rfl⟩ | ⟨hopen, rfl⟩
  · obtain ⟨hchain, hopen⟩ := fileChain_torn hfile hblank event
    have hne : encode (S.recordText head event.value) ≠ ByteArray.empty := by
      intro hempty
      obtain ⟨t, ht⟩ := exists_recordText (S := S) head event.value
      rw [encode_eq, List.utf8Encode_eq_empty, ht] at hempty
      exact absurd hempty (List.cons_ne_nil _ _)
    refine ⟨[event.value.canon], ?_, hopen⟩
    rw [tornHead, if_neg hne]
    exact hchain
  · refine ⟨[], ?_, ?_⟩
    · rw [List.append_nil, tornHead, if_pos rfl]
      exact fileChain_torn_empty.mpr hfile
    · rw [unfinished_torn_empty]
      exact hopen

lemma torn_cases_of_not (h : ¬ S.LeavesUnfinished file head event written)
    (hfile : S.FileChain previousHash file events head) (htorn : S.IsTorn head event written) :
    (∀ previousHash events head, ¬ S.FileChain previousHash (torn file written) events head) ∨
      skip (unfinished file) = [] ∧ written = ByteArray.empty := by
  rw [LeavesUnfinished, not_or] at h
  rcases torn_cases hfile htorn with hnone | rfl | hwhole
  · exact .inl hnone
  · by_cases hblank : skip (unfinished file) = []
    · exact .inr ⟨hblank, rfl⟩
    · exact absurd ⟨hblank, rfl⟩ h.2
  · exact absurd hwhole h.1

/-! ## The event ledger -/

variable (S) in
/-- `append_event`, one event after the other. -/
def appendEvents (file : Option ByteArray) : List LogEvent → Option (Option ByteArray)
  | [] => some file
  | event :: later =>
    (S.appendHashLinked file event zeroHash).bind fun appended =>
      appendEvents (some appended.1) later

variable (S) in
/-- Either the ledger fails to verify at once, or every later append leaves one that verifies and has
all the events in it, those from before and the later ones. -/
def LedgerHarmless (file : Option ByteArray) (before : List Value) : Prop :=
  (∀ records head, S.verifyHashLinked file zeroHash ≠ .ok records head) ∨
    ∀ later : List LogEvent, ∃ file' records head events, S.appendEvents file later = some file' ∧
        S.verifyHashLinked file' zeroHash = .ok records head ∧
        S.FileChain zeroHash file' events head ∧
        List.Sublist (before ++ later.map fun event => event.value.canon) events

/-- **A ledger that ends with a blank line goes on.** -/
lemma appendEvents_eq (later : List LogEvent) {file : Option ByteArray} {events : List Value}
    {head : String} (hfile : S.FileChain zeroHash file events head)
    (hblank : skip (unfinished file) = []) :
    ∃ file' head', S.appendEvents file later = some file' ∧
      S.FileChain zeroHash file' (events ++ later.map fun event => event.value.canon) head' := by
  induction later generalizing file events head with
  | nil =>
    refine ⟨file, head, rfl, ?_⟩
    rw [List.map_nil, List.append_nil]
    exact hfile
  | cons event later ih =>
    obtain ⟨happend, hopen⟩ := fileChain_append hfile hblank event
    obtain ⟨file', head', hrest, hchain⟩ := ih happend (by rw [hopen]; rfl)
    refine ⟨file', head', ?_, ?_⟩
    · rw [appendEvents, appendHashLinked, lastHash_of_chain hfile]
      exact hrest
    · rw [List.map_cons, List.append_cons]
      exact hchain

/-- **A torn append to the ledger.** -/
lemma ledgerHarmless_iff {before : List Value}
    (hfile : S.FileChain zeroHash file before head) (htorn : S.IsTorn head event written) :
    S.LedgerHarmless (torn file written) before ↔ ¬ S.LeavesUnfinished file head event written := by
  constructor
  · intro hharmless hleaves
    obtain ⟨more, hchain, hopen⟩ := hleaves.fileChain hfile
    rcases hharmless with hfails | hlater
    · exact hfails _ _ (verifyHashLinked_ok_iff.mpr ⟨_, hchain, rfl⟩)
    · obtain ⟨file', records, head', events, happend, -, hchain', -⟩ := hlater [event]
      rw [appendEvents, appendHashLinked, lastHash_of_chain hchain, Option.map_some,
        Option.bind_some, appendEvents, Option.some.injEq] at happend
      subst happend
      exact not_fileChain_of_unfinished hchain hopen (encoded_ne_nil _ _) List.prefix_rfl _ _ _ hchain'
  · intro hnot
    rcases torn_cases_of_not hnot hfile htorn with hnone | ⟨hblank, rfl⟩
    · left
      intro records head' hverify
      obtain ⟨events, hchain, -⟩ := verifyHashLinked_ok_iff.mp hverify
      exact hnone _ _ _ hchain
    · right
      intro later
      obtain ⟨file', head', happend, hchain⟩ := appendEvents_eq later
        (fileChain_torn_empty.mpr hfile) (by rw [unfinished_torn_empty]; exact hblank)
      exact ⟨file', _, head', _, happend, verifyHashLinked_ok_iff.mpr ⟨_, hchain, rfl⟩, hchain,
        List.Sublist.refl _⟩

/-! ## The authorization audit -/

variable (S) in
/-- Events of at most eight kibibytes, which alone are appended. -/
def Fits (event : LogEvent) : Prop := (S.canonical event.value).size ≤ 8192

instance (event : LogEvent) : Decidable (S.Fits event) := by unfold Fits; infer_instance

variable (S) in
def appends (n : AuditNode) (later : List LogEvent) : AuditNode :=
  later.foldl (fun n event => n.act S (.append event)) n

variable (S) in
/-- Either the audit fails to verify at once, or every later append leaves one that verifies and has
all the events in it, in its files or under its anchor. -/
def AuditHarmless (settings : AuditSettings) (anchor : RetentionAnchor) (d : AuditDisk)
    (before : List Value) : Prop :=
  (∀ found, S.scan settings d ≠ .ok found) ∨ ∀ later : List LogEvent, ∃ report state events,
      S.scan settings (S.appends ⟨settings, none, d, before⟩ later).disk = .ok (report, state) ∧
        S.Tells anchor (S.appends ⟨settings, none, d, before⟩ later).disk events ∧
        List.Sublist
          (before ++ (later.filter fun event => S.Fits event).map fun event => event.value.canon)
          events

variable {d : AuditDisk} {anchor origin : RetentionAnchor} {segments : List (List Value)}
  {middle : String} {active : List Value} {settings : AuditSettings}

lemma knows_none (d : AuditDisk) : S.Knows none d := fun _ hstate => absurd hstate (by simp)

lemma act_of_not_fits (h : ¬ S.Fits event) (n : AuditNode) : n.act S (.append event) = n := by
  have hrun : S.appendAuthorizationAudit n.settings n.cache n.disk event =
      ⟨[], n.cache, .error "authorization audit event exceeds 8 KiB bound"⟩ := by
    rw [appendAuthorizationAudit, if_pos (not_le.mp h)]
  simp only [AuditNode.act, hrun, durable, applyAll, List.foldl_nil, List.any_nil,
    Bool.false_eq_true, if_false, List.append_nil]

/-- **An audit that is kept goes on.** -/
lemma appends_keeps (later : List LogEvent) {n : AuditNode} {events : List Value}
    (hkeeps : S.Keeps origin n.disk events) (hknows : S.Knows n.cache n.disk) :
    S.Keeps origin (S.appends n later).disk
      (events ++ (later.filter fun event => S.Fits event).map fun event => event.value.canon) := by
  induction later generalizing n events with
  | nil =>
    rw [List.filter_nil, List.map_nil, List.append_nil]
    exact hkeeps
  | cons event later ih =>
    by_cases hfits : S.Fits event
    · obtain ⟨⟨anchor, pruned, segments, middle, active, head, hreads, hhead, hcount, rfl⟩,
        hblank⟩ := hkeeps
      have hwhole := keeps_stepsBefore hreads hhead hcount hblank n.settings
        (S.encoded head event.value) (S.stepsBefore n.settings n.disk anchor segments active
          (S.encoded head event.value)).length
      rw [List.take_length] at hwhole
      obtain ⟨-, hknows', hkeeps'⟩ := append_written hreads hhead n.settings hknows hfits hwhole
      have hrest := ih (n := n.act S (.append event)) hkeeps' hknows'
      rw [List.filter_cons_of_pos (by simpa using hfits), List.map_cons, List.append_cons]
      exact hrest
    · have hrest := ih hkeeps hknows
      rw [List.filter_cons_of_neg (by simpa using hfits)]
      rw [← act_of_not_fits hfits n] at hrest
      exact hrest

lemma appends_of_rotates (hreads : S.Reads d anchor segments middle active head)
    (hrotates : ∀ event, S.Fits event →
      settings.Rotates d.activeBytes (encode (S.encoded head event.value)).size)
    (later : List LogEvent) (ghost : List Value) :
    S.Tells anchor (S.appends ⟨settings, none, d, ghost⟩ later).disk (segments.flatten ++ active ++
        (later.filter fun event => S.Fits event).map fun event => event.value.canon) := by
  induction later with
  | nil =>
    rw [List.filter_nil, List.map_nil, List.append_nil]
    exact hreads.tells
  | cons event later ih =>
    by_cases hfits : S.Fits event
    · have hwhole : S.Keeps anchor (S.applyAll d (S.stepsBefore settings d anchor segments active
          (S.encoded head event.value))) ([] ++ (segments.flatten ++ active)) := by
        have hrotated : ∀ k, S.Keeps anchor (S.applyAll d ((S.rotationSteps settings d anchor
            segments active).take (k + 1))) ([] ++ (segments.flatten ++ active)) :=
          keeps_rotation hreads rfl rfl settings (hrotates event hfits).1
        have hkeeps := hrotated (S.pruneSteps settings (S.apply d (.moveActive
            (anchor.nextSequence + segments.length))) anchor (segments ++ [active])).length
        rw [rotationSteps, List.take_succ_cons, List.take_length] at hkeeps
        rw [stepsBefore, if_pos (hrotates event hfits)]
        exact hkeeps
      obtain ⟨-, hknows', hkeeps'⟩ := append_written hreads rfl settings (knows_none d) hfits hwhole
      have hrest := appends_keeps later
        (n := AuditNode.act S ⟨settings, none, d, ghost⟩ (.append event)) hkeeps' hknows'
      rw [List.filter_cons_of_pos (by simpa using hfits), List.map_cons, List.append_cons]
      exact hrest.1
    · rw [List.filter_cons_of_neg (by simpa using hfits)]
      rw [← act_of_not_fits hfits ⟨settings, none, d, ghost⟩] at ih
      exact ih

/-- The audit after an interrupted write to its active file. -/
def tornDisk (d : AuditDisk) (written : ByteArray) : AuditDisk :=
  { d with active := torn d.active written }

/-- **A torn append to the audit.** -/
lemma auditHarmless_iff
    (hreads : S.Reads d anchor segments middle active head) (htorn : S.IsTorn head event written) :
    S.AuditHarmless settings anchor (tornDisk d written) (segments.flatten ++ active) ↔
      ¬ S.LeavesUnfinished d.active head event written ∨
        ∀ later, S.Fits later → settings.Rotates (tornDisk d written).activeBytes
          (encode (S.encoded (S.tornHead head event written) later.value)).size := by
  have hunfinished : S.LeavesUnfinished d.active head event written → ∃ more,
      S.Reads (tornDisk d written) anchor segments middle (active ++ more)
        (S.tornHead head event written) ∧ skip (unfinished (torn d.active written)) ≠ [] := by
    intro hleaves
    obtain ⟨more, hchain, hopen⟩ := hleaves.fileChain hreads.active
    exact ⟨more, ⟨hreads.retention, hreads.segments, hchain⟩, hopen⟩
  have hrefused : (∀ previousHash events head,
      ¬ S.FileChain previousHash (torn d.active written) events head) →
      ∀ found, S.scan settings (tornDisk d written) ≠ .ok found := by
    rintro hnone ⟨report, state⟩ hscan
    obtain ⟨_, _, _, _, _, hfound, -, -⟩ := scan_ok_iff.mp hscan
    exact hnone _ _ _ hfound.active
  constructor
  · intro hharmless
    by_contra hnot
    rw [not_or, not_not] at hnot
    obtain ⟨hleaves, hnot⟩ := hnot
    obtain ⟨more, hreads', hopen⟩ := hunfinished hleaves
    rcases hharmless with hfails | hlater
    · exact hfails _ (hreads'.scan_eq settings)
    · refine hnot fun later hfits => by_contra fun hstays => ?_
      obtain ⟨report, state, events, hscan, -, -⟩ := hlater [later]
      obtain ⟨state', -, hhead, hrun⟩ := append_steps hreads' settings (knows_none _) hfits
      have hdisk : (S.appends ⟨settings, none, tornDisk d written, segments.flatten ++ active⟩
          [later]).disk = S.apply (tornDisk d written)
            (.appendLine (S.encoded (S.tornHead head event written) later.value)) := by
        rw [stepsBefore, if_neg hstays] at hrun
        simp only [appends, List.foldl_cons, List.foldl_nil, AuditNode.act, hrun, writeRecord, hhead]
        rfl
      rw [hdisk] at hscan
      obtain ⟨_, _, _, _, _, hfound, -, -⟩ := scan_ok_iff.mp hscan
      exact not_fileChain_of_unfinished hreads'.active hopen (encoded_ne_nil _ _) List.prefix_rfl
        _ _ _ hfound.active
  · intro hcondition
    by_cases hleaves : S.LeavesUnfinished d.active head event written
    · obtain ⟨more, hreads', -⟩ := hunfinished hleaves
      right
      intro later
      have htells := appends_of_rotates hreads' (hcondition.resolve_left (not_not.mpr hleaves))
        later (segments.flatten ++ active)
      obtain ⟨report, state, hscan, -⟩ := htells.scan settings
      refine ⟨report, state, _, hscan, htells, List.Sublist.append_right ?_ _⟩
      exact List.Sublist.append_left (List.sublist_append_left active more) _
    · rcases torn_cases_of_not hleaves hreads.active htorn with hnone | ⟨hblank, rfl⟩
      · exact .inl (hrefused hnone)
      · right
        intro later
        have hsame : S.Reads (tornDisk d ByteArray.empty) anchor segments middle active head :=
          ⟨hreads.retention, hreads.segments, fileChain_torn_empty.mpr hreads.active⟩
        have hkeeps := appends_keeps (n := ⟨settings, none, tornDisk d ByteArray.empty,
          segments.flatten ++ active⟩) later
          ⟨hsame.tells, by rw [tornDisk, unfinished_torn_empty]; exact hblank⟩ (knows_none _)
        obtain ⟨report, state, hscan, -⟩ := hkeeps.1.scan settings
        exact ⟨report, state, _, hscan, hkeeps.1, List.Sublist.refl _⟩

end LogSetup

open LogSetup

variable (S : LogSetup)

lemma fileChain_none : S.FileChain zeroHash none [] zeroHash :=
  ⟨[], decode_encode [], .nil⟩

lemma isTorn_recordText (head : String) (event : LogEvent) :
    S.IsTorn head event (encode (S.recordText head event.value)) := by
  refine ⟨encode ['\n'], fun hempty => ?_, ?_⟩
  · rw [encode_eq, List.utf8Encode_eq_empty] at hempty
    exact absurd hempty (List.cons_ne_nil _ _)
  · rw [encoded_eq, encode_append]

lemma isTorn_empty (head : String) (event : LogEvent) :
    S.IsTorn head event ByteArray.empty := by
  refine ⟨encode (S.encoded head event.value), fun hempty => ?_, ByteArray.empty_append⟩
  rw [encode_eq, List.utf8Encode_eq_empty] at hempty
  exact absurd hempty (by simp [encoded])

end StageForge
