import StageForge.Persistence.Audit

/-!
# What the files of the audit tell

**Reading.** `Reads S d anchor segments middle active head`: the segments that the anchor does not
stand for and the active file are chains, each linked to the one before. `scan_ok_iff`: the scan
accepts exactly such disks, and reports what they tell.
-/

namespace StageForge

open Python

/-! ## What is found -/

/-- What a scan finds after it has gone through segments. -/
def SegmentScan.after (scan : SegmentScan) (head : String)
    (segments : List (List Value)) (stale : ℕ) : SegmentScan :=
  { previous := head
    expectedSequence := scan.expectedSequence + segments.length
    records := scan.records + segments.flatten.length
    retainedSegments := scan.retainedSegments + segments.length
    stalePrunedFiles := scan.stalePrunedFiles + stale }

def AuditDisk.report (d : AuditDisk) (settings : AuditSettings) (anchor : RetentionAnchor)
    (segments : List (List Value)) (active : List Value) (head : String) : AuditReport :=
  { records := segments.flatten.length + active.length
    totalRecords := segments.flatten.length + active.length + anchor.prunedRecords
    head
    retainedSegments := segments.length
    activeRecords := active.length
    activeBytes := d.activeBytes
    retainedBytes := d.activeBytes + ((d.live anchor.nextSequence).map fun s => s.2.size).sum
    rotateBytes := settings.rotateBytes
    retainSegments := settings.retainSegments
    retentionAnchor := anchor.previousHead
    nextSequence := anchor.nextSequence
    prunedSegments := anchor.prunedSegments
    prunedRecords := anchor.prunedRecords
    stalePrunedFiles := (d.stale anchor.nextSequence).length }

def AuditDisk.state (d : AuditDisk) (anchor : RetentionAnchor) (segments : List (List Value))
    (middle : String) (active : List Value) (head : String) : AuditState :=
  { head
    activeInitial := middle
    activeRecords := active.length
    activeBytes := d.activeBytes
    nextSequence := anchor.nextSequence + segments.length
    activeSignature := d.active
    retentionSignature := d.retention
    segmentSignatures := d.segments }

def RetentionAnchor.after (S : LogSetup) (anchor : RetentionAnchor)
    (dropped : List (List Value)) : RetentionAnchor :=
  { previousHead := S.headAfter anchor.previousHead dropped.flatten
    nextSequence := anchor.nextSequence + dropped.length
    prunedSegments := anchor.prunedSegments + dropped.length
    prunedRecords := anchor.prunedRecords + dropped.flatten.length }

section

variable (d : AuditDisk) (anchor : RetentionAnchor) (segments : List (List Value))
  (middle : String) (active : List Value) (head : String)

@[simp] lemma AuditDisk.state_head : (d.state anchor segments middle active head).head = head := rfl

@[simp] lemma AuditDisk.state_activeBytes :
    (d.state anchor segments middle active head).activeBytes = d.activeBytes := rfl

@[simp] lemma AuditDisk.state_nextSequence :
    (d.state anchor segments middle active head).nextSequence =
      anchor.nextSequence + segments.length := rfl

end

namespace LogSetup

variable (S : LogSetup)

/-! ## What the files tell -/

/-- Segments with consecutive numbers, each linked to the one before. -/
inductive SegmentsChain : String → ℕ → List (ℕ × ByteArray) → List (List Value) → String → Prop
  | nil {previous : String} {next : ℕ} : SegmentsChain previous next [] [] previous
  | cons {previous middle head : String} {next : ℕ} {bytes : ByteArray} {events : List Value}
      {rest : List (ℕ × ByteArray)} {segments : List (List Value)} :
      S.FileChain previous (some bytes) events middle →
      SegmentsChain middle (next + 1) rest segments head →
      SegmentsChain previous next ((next, bytes) :: rest) (events :: segments) head

/-- The segments after the anchor and the active file are chains. -/
structure Reads (d : AuditDisk) (anchor : RetentionAnchor) (segments : List (List Value))
    (middle : String) (active : List Value) (head : String) : Prop where
  retention : S.retentionAnchor d.retention = .ok anchor
  segments : S.SegmentsChain anchor.previousHead anchor.nextSequence (d.live anchor.nextSequence)
    segments middle
  active : S.FileChain middle d.active active head

variable {S} {previous head middle : String} {next : ℕ} {ls : List (ℕ × ByteArray)}
  {segments : List (List Value)} {d : AuditDisk} {anchor : RetentionAnchor} {active : List Value}

lemma SegmentsChain.length_eq (h : S.SegmentsChain previous next ls segments head) :
    ls.length = segments.length := by
  induction h with
  | nil => rfl
  | cons _ _ ih => rw [List.length_cons, List.length_cons, ih]

lemma SegmentsChain.numbers (h : S.SegmentsChain previous next ls segments head) :
    ls.map Prod.fst = List.range' next segments.length := by
  induction h with
  | nil => rfl
  | cons _ _ ih => rw [List.map_cons, ih, List.length_cons, List.range'_succ]

lemma SegmentsChain.append {ms : List (ℕ × ByteArray)} {more : List (List Value)}
    (h : S.SegmentsChain previous next ls segments middle)
    (hmore : S.SegmentsChain middle (next + segments.length) ms more head) :
    S.SegmentsChain previous next (ls ++ ms) (segments ++ more) head := by
  induction h with
  | nil => exact hmore
  | @cons previous middle head next bytes events rest segments hfile _ ih =>
    refine .cons hfile (ih ?_)
    rw [List.length_cons] at hmore
    rw [show next + 1 + segments.length = next + (segments.length + 1) by omega]
    exact hmore

lemma SegmentsChain.split (h : S.SegmentsChain previous next ls segments head) (k : ℕ) :
    ∃ middle, S.SegmentsChain previous next (ls.take k) (segments.take k) middle ∧
      S.SegmentsChain middle (next + (segments.take k).length) (ls.drop k) (segments.drop k) head := by
  induction k generalizing previous next ls segments with
  | zero => exact ⟨previous, .nil, h⟩
  | succ k ih =>
    cases h with
    | nil => exact ⟨_, .nil, .nil⟩
    | @cons _ after _ _ bytes events rest segments hfile h =>
      obtain ⟨middle, hbefore, hafter⟩ := ih h
      refine ⟨middle, .cons hfile hbefore, ?_⟩
      rw [List.take_succ_cons, List.length_cons,
        show next + ((segments.take k).length + 1) = next + 1 + (segments.take k).length by omega]
      exact hafter

lemma filter_of_sorted {sequence : ℕ} {rest : List (ℕ × ByteArray)}
    (h : ∀ s ∈ rest, sequence < s.1) :
    (rest.filter fun s => sequence + 1 ≤ s.1) = rest ∧
      (rest.filter fun s => s.1 < sequence + 1) = [] := by
  refine ⟨List.filter_eq_self.mpr fun s hs => ?_, List.filter_eq_nil_iff.mpr fun s hs => ?_⟩
  · exact decide_eq_true (h s hs)
  · have hs := h s hs
    simp only [decide_eq_true_eq]
    omega

/-- **The scan accepts chains of segments.** By induction on the segments; numbers below the
expected one come first. -/
lemma scanSegments_ok_iff : ∀ {ls : List (ℕ × ByteArray)} (_ : ls.Pairwise fun a b => a.1 < b.1)
    {scan scan' : SegmentScan}, S.scanSegments scan ls = .ok scan' ↔
      ∃ segments head, S.SegmentsChain scan.previous scan.expectedSequence
          (ls.filter fun s => scan.expectedSequence ≤ s.1) segments head ∧
        scan' = scan.after head segments (ls.filter fun s => s.1 < scan.expectedSequence).length
  | [], _, scan, scan' => by
    constructor
    · intro h
      rw [scanSegments, Except.ok.injEq] at h
      exact ⟨[], scan.previous, .nil, h.symm⟩
    · rintro ⟨segments, head, hchain, hscan⟩
      cases hchain
      rw [hscan]
      rfl
  | (sequence, bytes) :: rest, hsorted, scan, scan' => by
    have hrest := List.pairwise_cons.mp hsorted
    have hafter := filter_of_sorted fun s hs => hrest.1 s hs
    rw [scanSegments]
    by_cases hstale : sequence < scan.expectedSequence
    · have hlive : ¬ scan.expectedSequence ≤ sequence := by omega
      rw [if_pos hstale, scanSegments_ok_iff hrest.2, List.filter_cons_of_neg (by simpa using hlive),
        List.filter_cons_of_pos (by simpa using hstale)]
      simp only [SegmentScan.after, List.length_cons, Nat.add_assoc, Nat.add_comm 1]
    rw [if_neg hstale]
    by_cases hequal : sequence = scan.expectedSequence
    · subst hequal
      have hlive : ((scan.expectedSequence, bytes) :: rest).filter
          (fun s => scan.expectedSequence ≤ s.1) = (scan.expectedSequence, bytes) :: rest := by
        rw [List.filter_cons_of_pos (by simp)]
        refine congrArg _ (List.filter_eq_self.mpr fun s hs => ?_)
        exact decide_eq_true (hrest.1 s hs).le
      have hnone : ((scan.expectedSequence, bytes) :: rest).filter
          (fun s => s.1 < scan.expectedSequence) = [] := by
        rw [List.filter_cons_of_neg (by simp), List.filter_eq_nil_iff]
        intro s hs
        have hs := hrest.1 s hs
        simp only [decide_eq_true_eq]
        omega
      rw [if_neg (not_not.mpr rfl), hlive, hnone]
      constructor
      · intro h
        split at h
        · rename_i records head hverify
          obtain ⟨events, hfile, rfl⟩ := verifyHashLinked_ok_iff.mp hverify
          obtain ⟨segments, head, hchain, rfl⟩ := (scanSegments_ok_iff hrest.2).mp h
          simp only [hafter.1, hafter.2] at hchain ⊢
          refine ⟨events :: segments, head, .cons hfile hchain, ?_⟩
          simp only [SegmentScan.after, List.length_cons, List.flatten_cons, List.length_append,
            List.length_nil, SegmentScan.mk.injEq, true_and, and_true]
          omega
        · cases h
      · rintro ⟨segments, head, hchain, rfl⟩
        cases hchain with
        | cons hfile hchain =>
          rename_i after events segments
          rw [verifyHashLinked_ok_iff.mpr ⟨events, hfile, rfl⟩]
          rw [scanSegments_ok_iff hrest.2]
          simp only [hafter.1, hafter.2]
          refine ⟨segments, head, hchain, ?_⟩
          simp only [SegmentScan.after, List.length_cons, List.flatten_cons, List.length_append,
            List.length_nil, SegmentScan.mk.injEq, true_and, and_true]
          omega
    · rw [if_pos hequal]
      constructor
      · intro h
        cases h
      · rintro ⟨segments, head, hchain, -⟩
        rw [List.filter_cons_of_pos (by simp; omega)] at hchain
        cases hchain
        exact absurd rfl hequal

open AuditDisk

/-- **A scan finds nothing wrong exactly where the files are chains.** -/
theorem scan_ok_iff {settings : AuditSettings} {report : AuditReport} {state : AuditState} :
    S.scan settings d = .ok (report, state) ↔
      ∃ anchor segments middle active head, S.Reads d anchor segments middle active head ∧
        report = d.report settings anchor segments active head ∧
        state = d.state anchor segments middle active head := by
  unfold scan
  constructor
  · intro h
    split at h
    · cases h
    · rename_i anchor hretention
      split at h
      · cases h
      · rename_i scan hscan
        obtain ⟨segments, middle, hsegments, rfl⟩ := (scanSegments_ok_iff d.sorted).mp hscan
        split at h
        · rename_i records head hverify
          obtain ⟨active, hactive, rfl⟩ := verifyHashLinked_ok_iff.mp hverify
          obtain ⟨rfl, rfl⟩ := Prod.mk.inj (Except.ok.inj h)
          refine ⟨anchor, segments, middle, active, head, ⟨hretention, hsegments, hactive⟩, ?_, ?_⟩
          · simp [report, SegmentScan.after, stale]
          · simp [state, SegmentScan.after]
        · cases h
  · rintro ⟨anchor, segments, middle, active, head, hreads, rfl, rfl⟩
    have hsegments : S.scanSegments ⟨anchor.previousHead, anchor.nextSequence, 0, 0, 0⟩ d.segments =
        .ok _ := (scanSegments_ok_iff d.sorted).mpr ⟨segments, middle, hreads.segments, rfl⟩
    rw [hreads.retention]
    simp only [hsegments]
    rw [show (SegmentScan.after _ middle segments _).previous = middle from rfl,
      verifyHashLinked_ok_iff.mpr ⟨active, hreads.active, rfl⟩]
    simp [report, state, SegmentScan.after, stale]

/-! ## The anchor -/

/-- **What is written to the retention file is read back.** -/
theorem retentionAnchor_anchorBytes {a : RetentionAnchor} (h : a.Valid) :
    S.retentionAnchor (some (S.anchorBytes a)) = .ok a := by
  have hdistinct : a.value.Distinct := by
    have hkeys : RetentionAnchor.keys.Nodup := by decide
    exact ⟨hkeys, trivial, trivial, trivial, trivial, trivial, trivial⟩
  have hbreaks := S.lineBreaks_notMem_text a.value.canon
  have hdecode : decode (S.anchorBytes a) = some (text S.floats a.value.canon ++ ['\n']) := by
    rw [anchorBytes, decode_encode, universalNewlines_eq_self]
    rw [List.mem_append, not_or]
    exact ⟨hbreaks.2, by decide⟩
  have hloads := loads_text S.reader (Value.distinct_canon hdistinct)
    (show skip [] = [] by rfl) (show skip ['\n'] = [] by decide)
  rw [List.nil_append] at hloads
  rw [retentionAnchor]
  simp only [hdecode, Option.bind_some, hloads, RetentionAnchor.ofValue_canon h]

lemma retentionAnchor_valid {file : Option ByteArray}
    (h : S.retentionAnchor file = .ok anchor) : anchor.Valid := by
  unfold retentionAnchor at h
  split at h
  · rw [← Except.ok.inj h]
    exact ⟨by decide +kernel, le_refl 1⟩
  · split at h
    · rename_i bytes found hfound
      rw [← Except.ok.inj h]
      obtain ⟨v, -, hv⟩ := Option.bind_eq_some_iff.mp hfound
      unfold RetentionAnchor.ofValue at hv
      simp only at hv
      split_ifs at hv
      split at hv
      · split_ifs at hv with hchecks
        rw [← Option.some.inj hv]
        refine ⟨hchecks.1, ?_⟩
        simp only
        omega
      · cases hv
    · cases h

/-! ## Heads -/

lemma isDigest_headAfter (h : IsDigest previous) (events : List Value) :
    IsDigest (S.headAfter previous events) := by
  induction events generalizing previous with
  | nil => exact h
  | cons event events ih => exact ih (S.hexdigest _)

lemma SegmentsChain.head_eq (h : S.SegmentsChain previous next ls segments head) :
    head = S.headAfter previous segments.flatten := by
  induction h with
  | nil => rfl
  | cons hfile _ ih =>
    obtain ⟨cs, -, hchain⟩ := hfile
    rw [ih, hchain.head_eq, List.flatten_cons, headAfter_append]

lemma Reads.head_eq (h : S.Reads d anchor segments middle active head) :
    head = S.headAfter anchor.previousHead (segments.flatten ++ active) := by
  obtain ⟨cs, -, hchain⟩ := h.active
  rw [hchain.head_eq, h.segments.head_eq, headAfter_append]

/-! ## Steps -/

lemma Reads.number_lt (h : S.Reads d anchor segments middle active head) {s : ℕ × ByteArray}
    (hs : s ∈ d.segments) : s.1 < anchor.nextSequence + segments.length := by
  by_cases hlive : anchor.nextSequence ≤ s.1
  · have hmem : s ∈ d.live anchor.nextSequence := List.mem_filter.mpr ⟨hs, decide_eq_true hlive⟩
    have hnumber := List.mem_map_of_mem (f := Prod.fst) hmem
    rw [h.segments.numbers, List.mem_range'_1] at hnumber
    exact hnumber.2
  · omega

lemma Reads.moveActive (h : S.Reads d anchor segments middle active head) {bytes : ByteArray}
    (hactive : d.active = some bytes) :
    S.Reads (S.apply d (.moveActive (anchor.nextSequence + segments.length))) anchor
      (segments ++ [active]) head [] head := by
  have hbelow : (d.segments.filter fun s => s.1 < anchor.nextSequence + segments.length) =
      d.segments := List.filter_eq_self.mpr fun s hs => decide_eq_true (h.number_lt hs)
  have habove : (d.segments.filter fun s => anchor.nextSequence + segments.length < s.1) = [] := by
    refine List.filter_eq_nil_iff.mpr fun s hs => ?_
    have hs := h.number_lt hs
    simp only [decide_eq_true_eq]
    omega
  have hlive : (S.apply d (.moveActive (anchor.nextSequence + segments.length))).live
      anchor.nextSequence = d.live anchor.nextSequence ++
        [(anchor.nextSequence + segments.length, bytes)] := by
    simp only [apply, hactive, live, putSegment, hbelow, habove, List.filter_append]
    rw [List.filter_cons_of_pos (by simp), List.filter_nil]
  have hretention : (S.apply d (.moveActive (anchor.nextSequence + segments.length))).retention =
      d.retention := by
    simp only [apply, hactive]
  have hnone : (S.apply d (.moveActive (anchor.nextSequence + segments.length))).active = none := by
    simp only [apply, hactive]
  have hfile := h.active
  rw [hactive] at hfile
  refine ⟨?_, ?_, ?_⟩
  · rw [hretention, h.retention]
  · rw [hlive]
    exact h.segments.append (.cons hfile .nil)
  · rw [hnone]
    exact ⟨[], decode_encode [], .nil⟩

lemma Reads.unlink (h : S.Reads d anchor segments middle active head) {sequence : ℕ}
    (hstale : sequence < anchor.nextSequence) :
    S.Reads (S.apply d (.unlink sequence)) anchor segments middle active head := by
  refine ⟨h.retention, ?_, h.active⟩
  have hlive : (S.apply d (.unlink sequence)).live anchor.nextSequence =
      d.live anchor.nextSequence := by
    simp only [apply, live, List.filter_filter]
    refine List.filter_congr fun s _ => ?_
    by_cases hs : anchor.nextSequence ≤ s.1
    · have hne : s.1 ≠ sequence := by omega
      simp [hs, hne]
    · simp [hs]
  rw [hlive]
  exact h.segments

lemma Reads.unlinks {sequences : List ℕ} (hstale : ∀ n ∈ sequences, n < anchor.nextSequence)
    (h : S.Reads d anchor segments middle active head) :
    S.Reads (S.applyAll d (sequences.map .unlink)) anchor segments middle active head := by
  induction sequences generalizing d with
  | nil => exact h
  | cons n sequences ih =>
    exact ih (fun m hm => hstale m (List.mem_cons_of_mem n hm))
      (h.unlink (hstale n List.mem_cons_self))

lemma SegmentsChain.filter_eq_drop (h : S.SegmentsChain previous next ls segments head) (k : ℕ) :
    (ls.filter fun s => next + (segments.take k).length ≤ s.1) = ls.drop k := by
  obtain ⟨middle, htake, hdrop⟩ := h.split k
  have hnumbers : ∀ {n ms more first last}, S.SegmentsChain first n ms more last → ∀ s ∈ ms,
      n ≤ s.1 ∧ s.1 < n + more.length := by
    intro n ms more first last hchain s hs
    have hmem := List.mem_map_of_mem (f := Prod.fst) hs
    rw [hchain.numbers, List.mem_range'_1] at hmem
    exact hmem
  conv_lhs => rw [← List.take_append_drop k ls, List.filter_append]
  rw [List.filter_eq_nil_iff.mpr, List.filter_eq_self.mpr, List.nil_append]
  · exact fun s hs => decide_eq_true (hnumbers hdrop s hs).1
  · intro s hs
    have hs := hnumbers htake s hs
    simp only [decide_eq_true_eq]
    omega

/-- **Replacing the anchor drops segments and nothing else.** -/
lemma Reads.replaceAnchor (h : S.Reads d anchor segments middle active head) (k : ℕ) :
    S.Reads (S.apply d (.replaceAnchor (anchor.after S (segments.take k))))
      (anchor.after S (segments.take k)) (segments.drop k) middle active head := by
  obtain ⟨last, htake, hdrop⟩ := h.segments.split k
  have hvalid := retentionAnchor_valid h.retention
  refine ⟨?_, ?_, h.active⟩
  · refine retentionAnchor_anchorBytes ⟨isDigest_headAfter hvalid.1 _, ?_⟩
    exact le_trans hvalid.2 (Nat.le_add_right _ _)
  · have hlive : (S.apply d (.replaceAnchor (anchor.after S (segments.take k)))).live
        (anchor.after S (segments.take k)).nextSequence = (d.live anchor.nextSequence).drop k := by
      rw [← h.segments.filter_eq_drop k]
      simp only [apply, live, RetentionAnchor.after, List.filter_filter]
      refine List.filter_congr fun s _ => ?_
      rw [Bool.eq_iff_iff]
      simp only [Bool.and_eq_true, decide_eq_true_eq]
      constructor
      · intro hs
        have hs := of_decide_eq_true hs
        exact ⟨hs, by omega⟩
      · exact fun hs => decide_eq_true hs.1
    rw [hlive, RetentionAnchor.after]
    rw [← htake.head_eq]
    exact hdrop

/-! ## Pruning -/

lemma pruneSegments_eq (records : ℕ) (h : S.SegmentsChain previous next ls segments head) :
    S.pruneSegments previous next records ls =
      .ok (head, next + segments.length, records + segments.flatten.length) := by
  induction h generalizing records with
  | nil => rfl
  | cons hfile _ ih =>
    rw [pruneSegments, if_neg (not_not.mpr rfl), verifyHashLinked_ok_iff.mpr ⟨_, hfile, rfl⟩]
    simp only
    rw [ih, List.length_cons, List.flatten_cons, List.length_append, Nat.add_assoc,
      Nat.add_assoc, Nat.add_comm 1]

def pruneCount (settings : AuditSettings) (segments : List (List Value)) : ℕ :=
  segments.length - settings.retainSegments

variable (S) in
def pruneSteps (settings : AuditSettings) (d : AuditDisk) (anchor : RetentionAnchor)
    (segments : List (List Value)) : List FsStep :=
  if segments.length ≤ settings.retainSegments then
    ((d.stale anchor.nextSequence).map Prod.fst).map .unlink
  else
    .replaceAnchor (anchor.after S (segments.take (pruneCount settings segments))) ::
      ((d.stale anchor.nextSequence ++
        (d.live anchor.nextSequence).take (pruneCount settings segments)).map Prod.fst).map .unlink

/-- **Pruning** commits the anchor before it unlinks a segment. -/
theorem prune_steps (settings : AuditSettings) (h : S.Reads d anchor segments middle active head) :
    S.prune settings d = .ok (S.pruneSteps settings d anchor segments) := by
  obtain ⟨last, htake, -⟩ := h.segments.split (pruneCount settings segments)
  have hlength := h.segments.length_eq
  rw [prune, h.retention]
  simp only [hlength, pruneSteps]
  split_ifs with hretain
  · rw [List.map_map]
    rfl
  · have hprune := pruneSegments_eq 0 htake
    have htaken := htake.length_eq
    rw [pruneCount] at hprune htaken
    simp only [hprune, htaken, Nat.zero_add, List.map_map]
    rw [htake.head_eq]
    rfl

lemma number_lt_of_stale {s : ℕ × ByteArray} (hs : s ∈ d.stale next) : s.1 < next :=
  of_decide_eq_true (List.mem_filter.mp hs).2

lemma Reads.number_lt_of_dropped (h : S.Reads d anchor segments middle active head) {k n : ℕ}
    (hn : n ∈ (d.stale anchor.nextSequence ++ (d.live anchor.nextSequence).take k).map Prod.fst) :
    n < (anchor.after S (segments.take k)).nextSequence := by
  obtain ⟨last, htake, -⟩ := h.segments.split k
  rw [RetentionAnchor.after]
  simp only
  rw [List.map_append, List.mem_append] at hn
  rcases hn with hn | hn
  · obtain ⟨s, hs, rfl⟩ := List.mem_map.mp hn
    have hs := number_lt_of_stale hs
    omega
  · rw [htake.numbers, List.mem_range'_1] at hn
    exact hn.2

theorem Reads.prune (settings : AuditSettings)
    (h : S.Reads d anchor segments middle active head) (k : ℕ) :
    ∃ dropped, S.Reads (S.applyAll d ((S.pruneSteps settings d anchor segments).take k))
      (anchor.after S (segments.take dropped)) (segments.drop dropped) middle active head := by
  unfold pruneSteps
  split_ifs with hretain
  · refine ⟨0, ?_⟩
    rw [← List.map_take]
    refine Reads.unlinks (fun n hn => ?_) h
    obtain ⟨s, hs, rfl⟩ := List.mem_map.mp (List.mem_of_mem_take hn)
    exact number_lt_of_stale hs
  · cases k with
    | zero => exact ⟨0, h⟩
    | succ k =>
      refine ⟨pruneCount settings segments, ?_⟩
      rw [List.take_succ_cons, applyAll, List.foldl_cons, ← List.map_take]
      exact Reads.unlinks (fun n hn => h.number_lt_of_dropped (List.mem_of_mem_take hn))
        (h.replaceAnchor _)

lemma segments_unlinks (d : AuditDisk) (sequences : List ℕ) :
    (S.applyAll d (sequences.map .unlink)).segments =
      d.segments.filter fun s => s.1 ∉ sequences := by
  induction sequences generalizing d with
  | nil => exact (List.filter_eq_self.mpr fun s _ => by simp).symm
  | cons n sequences ih =>
    have hstep : S.applyAll d ((n :: sequences).map .unlink) =
        S.applyAll (S.apply d (.unlink n)) (sequences.map .unlink) := rfl
    rw [hstep, ih]
    simp only [apply, List.filter_filter]
    refine List.filter_congr fun s _ => ?_
    rw [Bool.eq_iff_iff]
    simp only [Bool.and_eq_true, decide_eq_true_eq, List.mem_cons, not_or, and_comm]

/-- **When pruning is done**, at most the configured number of segments is there. -/
theorem Reads.pruned (settings : AuditSettings) (h : S.Reads d anchor segments middle active head) :
    ∃ dropped, S.Reads (S.applyAll d (S.pruneSteps settings d anchor segments))
        (anchor.after S (segments.take dropped)) (segments.drop dropped) middle active head ∧
      (segments.drop dropped).length ≤ settings.retainSegments ∧
      (S.applyAll d (S.pruneSteps settings d anchor segments)).stale
        (anchor.after S (segments.take dropped)).nextSequence = [] := by
  unfold pruneSteps
  split_ifs with hretain
  · refine ⟨0, Reads.unlinks (fun n hn => ?_) h, hretain, ?_⟩
    · obtain ⟨s, hs, rfl⟩ := List.mem_map.mp hn
      exact number_lt_of_stale hs
    · rw [stale, segments_unlinks, List.filter_filter, List.filter_eq_nil_iff]
      intro s hs hgone
      simp only [Bool.and_eq_true, decide_eq_true_eq] at hgone
      exact hgone.2 (List.mem_map_of_mem (List.mem_filter.mpr ⟨hs, decide_eq_true hgone.1⟩))
  · refine ⟨pruneCount settings segments, ?_, ?_, ?_⟩
    · rw [applyAll, List.foldl_cons]
      exact Reads.unlinks (fun n hn => h.number_lt_of_dropped hn) (h.replaceAnchor _)
    · rw [List.length_drop, pruneCount]
      omega
    · rw [applyAll, List.foldl_cons]
      change (S.applyAll _ _).stale _ = []
      rw [stale, segments_unlinks, List.filter_filter, List.filter_eq_nil_iff]
      intro s hs hgone
      simp only [Bool.and_eq_true, decide_eq_true_eq] at hgone
      refine hgone.2 (List.mem_map_of_mem ?_)
      have hs : s ∈ d.segments := hs
      by_cases hlive : anchor.nextSequence ≤ s.1
      · have hmem : s ∈ d.live anchor.nextSequence := List.mem_filter.mpr ⟨hs, decide_eq_true hlive⟩
        rw [← List.take_append_drop (pruneCount settings segments) (d.live _),
          List.mem_append] at hmem
        rcases hmem with hmem | hmem
        · exact List.mem_append_right _ hmem
        · rw [← h.segments.filter_eq_drop] at hmem
          exact absurd hgone.1 (not_lt.mpr (of_decide_eq_true (List.mem_filter.mp hmem).2))
      · exact List.mem_append_left _ (List.mem_filter.mpr ⟨hs, decide_eq_true (by omega)⟩)

/-! ## Appending -/

variable (S) in
/-- What the repository knows is what a scan would find. -/
def Knows (cache : Option AuditState) (d : AuditDisk) : Prop :=
  ∀ state, cache = some state → ∃ anchor segments middle active head,
    S.Reads d anchor segments middle active head ∧
      state = d.state anchor segments middle active head

lemma Reads.knows (h : S.Reads d anchor segments middle active head) :
    S.Knows (some (d.state anchor segments middle active head)) d := fun _ hstate =>
  ⟨anchor, segments, middle, active, head, h, (Option.some.inj hstate).symm⟩

lemma Reads.scan_eq (h : S.Reads d anchor segments middle active head) (settings : AuditSettings) :
    S.scan settings d = .ok (d.report settings anchor segments active head,
      d.state anchor segments middle active head) :=
  scan_ok_iff.mpr ⟨anchor, segments, middle, active, head, h, rfl, rfl⟩

variable {cache : Option AuditState}

lemma ensure_eq (h : S.Reads d anchor segments middle active head) (settings : AuditSettings)
    (hknows : S.Knows cache d) :
    S.ensure settings cache d = .ok (d.state anchor segments middle active head) := by
  cases cache with
  | none =>
    rw [ensure]
    simp only [h.scan_eq settings]
  | some state =>
    obtain ⟨_, _, _, _, _, h', rfl⟩ := hknows state rfl
    have hsame := (h.scan_eq settings).symm.trans (h'.scan_eq settings)
    obtain ⟨-, hstate⟩ := Prod.mk.inj (Except.ok.inj hsame)
    rw [← hstate, ensure, if_pos]
    simp [AuditState.matchesDisk, state]

variable (S) in
/-- The steps of rotating files that are read so. -/
def rotationSteps (settings : AuditSettings) (d : AuditDisk) (anchor : RetentionAnchor)
    (segments : List (List Value)) (active : List Value) : List FsStep :=
  .moveActive (anchor.nextSequence + segments.length) ::
    S.pruneSteps settings (S.apply d (.moveActive (anchor.nextSequence + segments.length))) anchor
      (segments ++ [active])

lemma exists_active (hbytes : d.activeBytes ≠ 0) : ∃ bytes, d.active = some bytes := by
  cases hfile : d.active with
  | some bytes => exact ⟨bytes, rfl⟩
  | none => exact absurd (by rw [activeBytes, hfile]; rfl) hbytes

/-- **Rotating** moves the active file and prunes. -/
theorem rotate_steps (h : S.Reads d anchor segments middle active head)
    (settings : AuditSettings) (hknows : S.Knows cache d)
    (hbytes : d.activeBytes ≠ 0) :
    ∃ refreshed, S.rotate settings cache d =
        ⟨S.rotationSteps settings d anchor segments active, some refreshed, .ok ()⟩ ∧
      refreshed.head = head ∧ S.Knows (some refreshed)
        (S.applyAll d (S.rotationSteps settings d anchor segments active)) := by
  obtain ⟨bytes, hactive⟩ := exists_active hbytes
  have hmoved := h.moveActive hactive
  obtain ⟨dropped, hpruned, -, -⟩ := hmoved.pruned settings
  refine ⟨_, ?_, rfl, hpruned.knows⟩
  have hopen : ¬ (d.active = none ∨ d.activeBytes = 0) := by
    rw [hactive]
    simpa using hbytes
  rw [rotate, ensure_eq h settings hknows]
  simp only [state_activeBytes, state_nextSequence]
  simp only [hopen, if_false, prune_steps settings hmoved, hpruned.scan_eq settings]
  -- the number of the new segment is free
  refine (if_neg fun htaken => ?_).trans rfl
  obtain ⟨s, hs, hequal⟩ := List.any_eq_true.mp htaken
  have hbelow := h.number_lt hs
  have hequal := of_decide_eq_true hequal
  omega

variable (S) in
/-- The steps of an append to files that are read so, up to its line. -/
def stepsBefore (settings : AuditSettings) (d : AuditDisk) (anchor : RetentionAnchor)
    (segments : List (List Value)) (active : List Value) (line : List Char) : List FsStep :=
  if settings.Rotates d.activeBytes (encode line).size then
    S.rotationSteps settings d anchor segments active
  else []

/-- **Appending** rotates the files if the active one is too large, and then writes the record. -/
theorem append_steps (h : S.Reads d anchor segments middle active head)
    (settings : AuditSettings) (hknows : S.Knows cache d)
    {event : LogEvent} (hsize : (S.canonical event.value).size ≤ 8192) :
    ∃ state, S.Knows (some state) (S.applyAll d (S.stepsBefore settings d anchor segments active
        (S.encoded head event.value))) ∧ state.head = head ∧
      S.appendAuthorizationAudit settings cache d event =
        let before := S.stepsBefore settings d anchor segments active (S.encoded head event.value)
        let write := S.writeRecord (S.applyAll d before) state event
        { write with steps := before ++ write.steps } := by
  rw [appendAuthorizationAudit, if_neg (by omega), ensure_eq h settings hknows]
  simp only [stepsBefore, state_activeBytes, state_head]
  by_cases hrotates : settings.Rotates d.activeBytes (encode (S.encoded head event.value)).size
  · obtain ⟨refreshed, hrotate, hhead, hknows'⟩ := rotate_steps h settings h.knows hrotates.1
    refine ⟨refreshed, ?_, hhead, ?_⟩
    · rw [if_pos hrotates]
      exact hknows'
    · obtain ⟨_, _, _, _, _, hreads, hstate⟩ := hknows' refreshed rfl
      simp only [hrotates, if_true, hrotate, ensure_eq hreads settings hknows', ← hstate]
  · refine ⟨d.state anchor segments middle active head, ?_, rfl, ?_⟩
    · rw [if_neg hrotates]
      exact h.knows
    · simp only [hrotates, if_false]
      rfl

/-- After a record that is written to a file that ends with a line break, the repository knows the
files. -/
lemma knows_writeRecord {state : AuditState} (hknows : S.Knows (some state) d)
    (hblank : skip (unfinished d.active) = []) (event : LogEvent) :
    S.Knows (S.writeRecord d state event).cache (S.applyAll d (S.writeRecord d state event).steps) := by
  obtain ⟨anchor, segments, middle, active, head, h, rfl⟩ := hknows state rfl
  have hfile := (fileChain_append h.active hblank event).1
  have hreads : S.Reads (S.apply d (.appendLine (S.encoded head event.value))) anchor segments
      middle (active ++ [event.value.canon]) (S.recordHash head event.value) :=
    ⟨h.retention, h.segments, hfile⟩
  have hcache := hreads.knows
  have hsame : (S.apply d (.appendLine (S.encoded head event.value))).state anchor segments middle
      (active ++ [event.value.canon]) (S.recordHash head event.value) =
      { d.state anchor segments middle active head with
        head := S.recordHash head event.value
        activeRecords := active.length + 1
        activeBytes := d.activeBytes + (encode (S.encoded head event.value)).size
        activeSignature := (S.apply d (.appendLine (S.encoded head event.value))).active } := by
    simp only [state, apply, activeBytes, Option.getD_some,
      ByteArray.size_append, List.length_append, List.length_singleton]
  rw [hsame] at hcache
  exact hcache

end LogSetup

end StageForge
