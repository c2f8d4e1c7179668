import StageForge.Library.Table
import StageForge.Library.TokenBucket

/-!
# Rate limits of the development server

`RequestRateLimiter` of `backend/dev_server.py`: a bucket of tokens for each peer and one for all of them.
A request takes a token from both. When the table of peers is full, the buckets that are full again are
forgotten; if there is none, the request of a new peer is refused.
-/

namespace StageForge

open TokenBucket

structure LimiterSettings where
  peerRate : ℚ
  peerBurst : ℚ
  totalRate : ℚ
  totalBurst : ℚ
  maxPeers : ℕ
  peerRate_pos : 0 < peerRate
  peerBurst_pos : 0 < peerBurst
  totalRate_pos : 0 < totalRate
  totalBurst_pos : 0 < totalBurst

universe u

variable {κ : Type u} [DecidableEq κ]

structure RequestRateLimiter (κ : Type u) where
  peers : Dict κ (Bucket ℚ)
  total : Bucket ℚ

def keepIf {β : Type} (d : Dict κ β) (p : κ × β → Bool) : Dict κ β :=
  ⟨d.rows.filter p, d.nodup.sublist (List.filter_sublist.map _)⟩

namespace RequestRateLimiter

variable (S : LimiterSettings)

def start (clock : ℚ) : RequestRateLimiter κ := ⟨Table.empty, ⟨S.totalBurst, clock⟩⟩

/-- The peers that are not forgotten before a request: of a full table only those whose bucket is not full. -/
def remaining (l : RequestRateLimiter κ) (now : ℚ) (peer : κ) : Dict κ (Bucket ℚ) :=
  if peer ∉ l.peers.keys ∧ S.maxPeers ≤ l.peers.rows.length then
    keepIf l.peers fun entry => entry.2.gained S.peerRate now < S.peerBurst
  else l.peers

/-- `allow`, at the time that the clock shows. -/
def allow (l : RequestRateLimiter κ) (now : ℚ) (peer : κ) : RequestRateLimiter κ × Bool :=
  let total := l.total.level S.totalBurst S.totalRate now
  let peers := l.remaining S now peer
  if (peer ∉ l.peers.keys ∧ S.maxPeers ≤ l.peers.rows.length) ∧ S.maxPeers ≤ peers.rows.length then
    (⟨peers, ⟨total, now⟩⟩, false)
  else
    let bucket := (peers.get? peer).getD ⟨S.peerBurst, now⟩
    let available := bucket.level S.peerBurst S.peerRate now
    if total < 1 ∨ available < 1 then (⟨peers.set peer ⟨available, now⟩, ⟨total, now⟩⟩, false)
    else (⟨peers.set peer ⟨available - 1, now⟩, ⟨total - 1, now⟩⟩, true)

def after (l : RequestRateLimiter κ) (requests : List (ℚ × κ)) : RequestRateLimiter κ :=
  requests.foldl (fun l r => (l.allow S r.1 r.2).1) l

def admitted (l : RequestRateLimiter κ) : List (ℚ × κ) → List (ℚ × κ)
  | [] => []
  | r :: rest =>
    if (l.allow S r.1 r.2).2 then r :: (l.allow S r.1 r.2).1.admitted rest
    else (l.allow S r.1 r.2).1.admitted rest

end RequestRateLimiter

/-! ## All buckets kept -/

inductive Admission
  | crowdedOut
  | denied
  | admitted
  deriving DecidableEq

/-- The limiter with all buckets kept; `present` are the peers that it has not forgotten. -/
structure KeepingLimiter (κ : Type u) where
  buckets : κ → Bucket ℚ
  present : List κ
  total : Bucket ℚ

/-- What a request does to the bucket of its peer. -/
def Admission.ofPeer : Admission → Use
  | .crowdedOut => .skip
  | .denied => .keep
  | .admitted => .take

/-- What a request does to the bucket of all peers. -/
def Admission.ofTotal : Admission → Use
  | .admitted => .take
  | _ => .keep

namespace KeepingLimiter

variable (S : LimiterSettings)

def start (clock : ℚ) : KeepingLimiter κ := ⟨fun _ => ⟨S.peerBurst, clock⟩, [], ⟨S.totalBurst, clock⟩⟩

/-- The peers that are not forgotten before a request. -/
def remaining (k : KeepingLimiter κ) (now : ℚ) (peer : κ) : List κ :=
  if peer ∉ k.present ∧ S.maxPeers ≤ k.present.length then
    k.present.filter fun q => (k.buckets q).gained S.peerRate now < S.peerBurst
  else k.present

def decide (k : KeepingLimiter κ) (now : ℚ) (peer : κ) : Admission :=
  if (peer ∉ k.present ∧ S.maxPeers ≤ k.present.length) ∧
      S.maxPeers ≤ (k.remaining S now peer).length then
    .crowdedOut
  else if k.total.level S.totalBurst S.totalRate now < 1 ∨
      (k.buckets peer).level S.peerBurst S.peerRate now < 1 then .denied
  else .admitted

def next (k : KeepingLimiter κ) (now : ℚ) (peer : κ) : KeepingLimiter κ where
  buckets := Function.update k.buckets peer
    ((k.buckets peer).use S.peerBurst S.peerRate now (k.decide S now peer).ofPeer)
  present :=
    if k.decide S now peer = .crowdedOut ∨ peer ∈ k.remaining S now peer then k.remaining S now peer
    else k.remaining S now peer ++ [peer]
  total := k.total.use S.totalBurst S.totalRate now (k.decide S now peer).ofTotal

/-- The requests that are admitted with all buckets kept. -/
def admitted (k : KeepingLimiter κ) : List (ℚ × κ) → List (ℚ × κ)
  | [] => []
  | r :: rest =>
    if k.decide S r.1 r.2 = .admitted then r :: (k.next S r.1 r.2).admitted rest
    else (k.next S r.1 r.2).admitted rest

def peerUses (p : κ) (k : KeepingLimiter κ) : List (ℚ × κ) → List (ℚ × Use)
  | [] => []
  | r :: rest =>
    (r.1, if r.2 = p then (k.decide S r.1 r.2).ofPeer else .skip) :: (k.next S r.1 r.2).peerUses p rest

def totalUses (k : KeepingLimiter κ) : List (ℚ × κ) → List (ℚ × Use)
  | [] => []
  | r :: rest => (r.1, (k.decide S r.1 r.2).ofTotal) :: (k.next S r.1 r.2).totalUses rest

end KeepingLimiter

/-! ## Both decide the same -/

section

variable {S : LimiterSettings} {l : RequestRateLimiter κ} {k : KeepingLimiter κ} {t now : ℚ}
  {p peer : κ} {requests : List (ℚ × κ)}

/-- The limiters have the same buckets; those that one has forgotten are full. -/
structure SameBuckets (S : LimiterSettings) (t : ℚ) (l : RequestRateLimiter κ)
    (k : KeepingLimiter κ) : Prop where
  total : l.total = k.total
  keys : l.peers.keys = k.present
  kept : ∀ p b, l.peers.get? p = some b → k.buckets p = b
  full : ∀ p, p ∉ l.peers.keys → S.peerBurst ≤ (k.buckets p).gained S.peerRate t

lemma sameBuckets_start (t : ℚ) : SameBuckets S t (.start S t : RequestRateLimiter κ) (.start S t) where
  total := rfl
  keys := rfl
  kept _ _ h := by cases h
  full _ _ := by simp [KeepingLimiter.start, Bucket.gained]

lemma SameBuckets.later (h : SameBuckets S t l k) (hle : t ≤ now) : SameBuckets S now l k :=
  { h with full := fun p hp => (h.full p hp).trans (Bucket.gained_mono S.peerRate_pos.le hle) }

lemma SameBuckets.length (h : SameBuckets S t l k) : l.peers.rows.length = k.present.length := by
  rw [← h.keys, Table.keys, List.length_map]

lemma get?_eq_some {d : Dict κ (Bucket ℚ)} {b : Bucket ℚ} : d.get? p = some b ↔ (p, b) ∈ d.rows := by
  constructor
  · intro hget
    obtain ⟨⟨q, c⟩, hfind, rfl⟩ := Option.map_eq_some_iff.mp hget
    obtain ⟨hmem, rfl⟩ := Table.find?_eq_some.mp hfind
    exact hmem
  · intro hmem
    exact Option.map_eq_some_iff.mpr ⟨(p, b), Table.find?_eq_some.mpr ⟨hmem, rfl⟩, rfl⟩

lemma get?_eq_none {d : Dict κ (Bucket ℚ)} : d.get? p = none ↔ p ∉ d.keys := by
  rw [Dict.get?, Option.map_eq_none_iff, Table.find?_eq_none]

lemma SameBuckets.forget (h : SameBuckets S now l k) (peer : κ) :
    SameBuckets S now ⟨l.remaining S now peer, l.total⟩ { k with present := k.remaining S now peer } := by
  have hrows : ∀ row ∈ l.peers.rows, k.buckets row.1 = row.2 := fun row hrow =>
    h.kept row.1 row.2 (get?_eq_some.mpr hrow)
  by_cases hcrowded : peer ∉ l.peers.keys ∧ S.maxPeers ≤ l.peers.rows.length
  · have hremaining : l.remaining S now peer =
        keepIf l.peers fun entry => entry.2.gained S.peerRate now < S.peerBurst := if_pos hcrowded
    have hpresent : k.remaining S now peer =
        k.present.filter fun q => (k.buckets q).gained S.peerRate now < S.peerBurst := by
      rw [KeepingLimiter.remaining, if_pos (by rwa [← h.length, ← h.keys])]
    have hkeys : (l.remaining S now peer).keys = k.remaining S now peer := by
      rw [hremaining, hpresent, ← h.keys, Table.keys, Table.keys, keepIf, List.filter_map]
      refine congrArg _ (List.filter_congr fun row hrow => ?_)
      rw [Function.comp_apply, hrows row hrow]
    refine ⟨h.total, hkeys, fun p b hget => ?_, fun p hp => ?_⟩
    · rw [hremaining, get?_eq_some] at hget
      exact h.kept p b (get?_eq_some.mpr (List.mem_of_mem_filter hget))
    · by_cases hmem : p ∈ l.peers.keys
      · rw [hkeys, hpresent, List.mem_filter, decide_eq_true_eq, ← h.keys] at hp
        exact not_lt.mp fun hlow => hp ⟨hmem, hlow⟩
      · exact h.full p hmem
  · have hremaining : l.remaining S now peer = l.peers := if_neg hcrowded
    have hpresent : k.remaining S now peer = k.present := by
      rw [KeepingLimiter.remaining, if_neg (by rwa [← h.length, ← h.keys])]
    rw [hremaining, hpresent]
    exact h

lemma SameBuckets.level (h : SameBuckets S now l k) (peer : κ) :
    ((l.peers.get? peer).getD ⟨S.peerBurst, now⟩).level S.peerBurst S.peerRate now =
      (k.buckets peer).level S.peerBurst S.peerRate now := by
  cases hget : l.peers.get? peer with
  | some b => rw [Option.getD_some, h.kept peer b hget]
  | none =>
    have hfull := h.full peer (get?_eq_none.mp hget)
    rw [Option.getD_none, Bucket.level_self, min_self, Bucket.level, min_eq_left hfull]

lemma keys_set (d : Dict κ (Bucket ℚ)) (b : Bucket ℚ) :
    (d.set p b).keys = if p ∈ d.keys then d.keys else d.keys ++ [p] := by
  by_cases hmem : p ∈ d.keys
  · rw [if_pos hmem, Dict.set, Table.put, dif_pos hmem]
    exact Table.keys_replace _
  · rw [if_neg hmem, Dict.set, Table.keys, Table.rows_put_of_new hmem, List.map_append]
    rfl

lemma SameBuckets.set (h : SameBuckets S now l k) (peer : κ) {b b' total : Bucket ℚ} (hb : b = b') :
    SameBuckets S now ⟨l.peers.set peer b, total⟩ ⟨Function.update k.buckets peer b',
        if peer ∈ k.present then k.present else k.present ++ [peer], total⟩ where
  total := rfl
  keys := by
    rw [keys_set, h.keys]
  kept p c hget := by
    rw [Dict.get?_set] at hget
    by_cases hp : peer = p
    · rw [if_pos hp] at hget
      subst hp
      change Function.update k.buckets peer b' peer = c
      rw [Function.update_self, ← hb]
      exact Option.some.inj hget
    · rw [if_neg hp] at hget
      change Function.update k.buckets peer b' p = c
      rw [Function.update_of_ne (Ne.symm hp)]
      exact h.kept p c hget
  full p hp := by
    have hnew : p ∉ l.peers.keys ∧ p ≠ peer := by
      rw [keys_set] at hp
      split at hp
      · next hmem => exact ⟨hp, fun heq => hp (heq ▸ hmem)⟩
      · simpa using hp
    change S.peerBurst ≤ (Function.update k.buckets peer b' p).gained S.peerRate now
    rw [Function.update_of_ne hnew.2]
    exact h.full p hnew.1

/-- **A request is decided the same, and leaves the same buckets.** -/
lemma allow_same (h : SameBuckets S now l k) (peer : κ) :
    (l.allow S now peer).2 = decide (k.decide S now peer = .admitted) ∧
      SameBuckets S now (l.allow S now peer).1 (k.next S now peer) := by
  have hforget := h.forget peer
  have hlevel := hforget.level peer
  have hlength := hforget.length
  by_cases hcrowded : (peer ∉ l.peers.keys ∧ S.maxPeers ≤ l.peers.rows.length) ∧
      S.maxPeers ≤ (l.remaining S now peer).rows.length
  · have hdecide : k.decide S now peer = .crowdedOut :=
      if_pos (by rwa [← h.length, ← h.keys, ← hlength])
    have hallow : l.allow S now peer =
        (⟨l.remaining S now peer, ⟨l.total.level S.totalBurst S.totalRate now, now⟩⟩, false) := if_pos hcrowded
    have hnext : k.next S now peer =
        ⟨k.buckets, k.remaining S now peer, ⟨k.total.level S.totalBurst S.totalRate now, now⟩⟩ := by
      rw [KeepingLimiter.next, hdecide]
      simp only [Admission.ofPeer, Admission.ofTotal, Bucket.use, Function.update_eq_self, true_or, if_true]
    rw [hallow, hdecide, hnext]
    refine ⟨rfl, { hforget with total := ?_ }⟩
    rw [h.total]
  · have hnot : ¬((peer ∉ k.present ∧ S.maxPeers ≤ k.present.length) ∧
        S.maxPeers ≤ (k.remaining S now peer).length) := by rwa [← h.length, ← h.keys, ← hlength]
    by_cases hlow : l.total.level S.totalBurst S.totalRate now < 1 ∨
        (k.buckets peer).level S.peerBurst S.peerRate now < 1
    · have hdecide : k.decide S now peer = .denied := by
        rw [KeepingLimiter.decide, if_neg hnot, if_pos (by rwa [← h.total])]
      have hallow : l.allow S now peer =
          (⟨(l.remaining S now peer).set peer ⟨(k.buckets peer).level S.peerBurst S.peerRate now, now⟩,
            ⟨l.total.level S.totalBurst S.totalRate now, now⟩⟩, false) := by
        simp only [RequestRateLimiter.allow, if_neg hcrowded, hlevel, if_pos hlow]
      rw [hallow, hdecide, KeepingLimiter.next, hdecide]
      refine ⟨rfl, ?_⟩
      simpa [Admission.ofPeer, Admission.ofTotal, Bucket.use, h.total] using
        @SameBuckets.set _ _ _ _ _ _ hforget peer _ _ ⟨k.total.level S.totalBurst S.totalRate now, now⟩ rfl
    · have hdecide : k.decide S now peer = .admitted := by
        rw [KeepingLimiter.decide, if_neg hnot, if_neg (by rwa [← h.total])]
      have hallow : l.allow S now peer =
          (⟨(l.remaining S now peer).set peer ⟨(k.buckets peer).level S.peerBurst S.peerRate now - 1, now⟩,
            ⟨l.total.level S.totalBurst S.totalRate now - 1, now⟩⟩, true) := by
        simp only [RequestRateLimiter.allow, if_neg hcrowded, hlevel, if_neg hlow]
      rw [hallow, hdecide, KeepingLimiter.next, hdecide]
      refine ⟨rfl, ?_⟩
      simpa [Admission.ofPeer, Admission.ofTotal, Bucket.use, h.total] using
        @SameBuckets.set _ _ _ _ _ _ hforget peer _ _
          ⟨k.total.level S.totalBurst S.totalRate now - 1, now⟩ rfl

/-- **Forgetting changes no decision.** By induction on the requests. -/
lemma admitted_same (h : SameBuckets S t l k)
    (hsorted : (t :: requests.map Prod.fst).Pairwise (· ≤ ·)) :
    l.admitted S requests = k.admitted S requests := by
  induction requests generalizing t l k with
  | nil => rfl
  | cons r rest ih =>
    obtain ⟨hle, hrest⟩ := List.pairwise_cons.mp hsorted
    obtain ⟨hdecision, hsame⟩ := allow_same (h.later (hle r.1 (by simp))) r.2
    rw [RequestRateLimiter.admitted, KeepingLimiter.admitted, ih hsame hrest, hdecision]
    simp only [decide_eq_true_eq]

end

/-! ## The bounds -/

section

variable {S : LimiterSettings} {l : RequestRateLimiter κ} {k : KeepingLimiter κ} {t now : ℚ}
  {p peer : κ} {requests : List (ℚ × κ)}

namespace KeepingLimiter

lemma levels_of_admitted (h : k.decide S now peer = .admitted) :
    1 ≤ k.total.level S.totalBurst S.totalRate now ∧
      1 ≤ (k.buckets peer).level S.peerBurst S.peerRate now := by
  rw [decide] at h
  split at h
  · cases h
  · split at h
    · cases h
    · next hlow =>
        rw [not_or, not_lt, not_lt] at hlow
        exact hlow

lemma admissible_peer (hsorted : (t :: requests.map Prod.fst).Pairwise (· ≤ ·)) :
    Admissible S.peerBurst S.peerRate (k.buckets p) t (k.peerUses S p requests) := by
  induction requests generalizing t k with
  | nil => trivial
  | cons r rest ih =>
    obtain ⟨hle, hrest⟩ := List.pairwise_cons.mp hsorted
    have hnext := ih (k := k.next S r.1 r.2) hrest
    refine ⟨hle r.1 (by simp), ?_, ?_⟩
    · intro htake
      split at htake
      · next hp =>
          cases hdecide : k.decide S r.1 r.2 <;> rw [hdecide] at htake
          · cases htake
          · cases htake
          · exact hp ▸ (levels_of_admitted hdecide).2
      · cases htake
    · by_cases hp : r.2 = p
      · subst hp
        simpa [next] using hnext
      · rw [if_neg hp]
        rwa [show (k.next S r.1 r.2).buckets p = k.buckets p from
          Function.update_of_ne (Ne.symm hp) _ _] at hnext

lemma admissible_total (hsorted : (t :: requests.map Prod.fst).Pairwise (· ≤ ·)) :
    Admissible S.totalBurst S.totalRate k.total t (k.totalUses S requests) := by
  induction requests generalizing t k with
  | nil => trivial
  | cons r rest ih =>
    obtain ⟨hle, hrest⟩ := List.pairwise_cons.mp hsorted
    refine ⟨hle r.1 (by simp), ?_, ih (k := k.next S r.1 r.2) hrest⟩
    intro htake
    cases hdecide : k.decide S r.1 r.2 <;> rw [hdecide] at htake
    · cases htake
    · cases htake
    · exact (levels_of_admitted hdecide).1

lemma countP_admitted_peer (s e : ℚ) :
    (k.admitted S requests).countP (fun r => r.2 = p ∧ s ≤ r.1 ∧ r.1 ≤ e) =
      takenIn s e (k.peerUses S p requests) := by
  induction requests generalizing k with
  | nil => rfl
  | cons r rest ih =>
    have hrest := ih (k := k.next S r.1 r.2)
    rw [takenIn] at hrest ⊢
    rw [peerUses, List.countP_cons, ← hrest, admitted]
    by_cases hp : r.2 = p <;> cases hdecide : k.decide S r.1 r.2 <;>
      simp [hp, Admission.ofPeer, List.countP_cons]

lemma countP_admitted_total (s e : ℚ) :
    (k.admitted S requests).countP (fun r => s ≤ r.1 ∧ r.1 ≤ e) =
      takenIn s e (k.totalUses S requests) := by
  induction requests generalizing k with
  | nil => rfl
  | cons r rest ih =>
    have hrest := ih (k := k.next S r.1 r.2)
    rw [takenIn] at hrest ⊢
    rw [totalUses, List.countP_cons, ← hrest, admitted]
    cases hdecide : k.decide S r.1 r.2 <;> simp [Admission.ofTotal, List.countP_cons]

end KeepingLimiter

namespace RequestRateLimiter

lemma length_remaining_le : (l.remaining S now peer).rows.length ≤ l.peers.rows.length := by
  rw [remaining]
  split
  · exact List.length_filter_le _ _
  · exact le_refl _

lemma length_set (d : Dict κ (Bucket ℚ)) (b : Bucket ℚ) :
    (d.set p b).rows.length = d.rows.length + if p ∈ d.keys then 0 else 1 := by
  have hkeys := congrArg List.length (keys_set (p := p) d b)
  rw [Table.keys, List.length_map] at hkeys
  rw [hkeys]
  split <;> simp [Table.keys]

lemma length_allow (h : l.peers.rows.length ≤ S.maxPeers) :
    (l.allow S now peer).1.peers.rows.length ≤ S.maxPeers := by
  have hle := (@length_remaining_le _ _ S l now peer).trans h
  rw [allow]
  dsimp only
  split
  · exact hle
  · next hroom =>
      have hset : ∀ b, ((l.remaining S now peer).set peer b).rows.length ≤ S.maxPeers := by
        intro b
        rw [length_set]
        split
        · exact hle
        · next hnew =>
            by_cases hcrowded : peer ∉ l.peers.keys ∧ S.maxPeers ≤ l.peers.rows.length
            · have hlt := not_le.mp fun hfull => hroom ⟨hcrowded, hfull⟩
              exact hlt
            · rw [remaining, if_neg hcrowded] at hnew ⊢
              have hlt := not_le.mp fun hfull => hcrowded ⟨hnew, hfull⟩
              exact hlt
      split
      · exact hset _
      · exact hset _

lemma length_after (h : l.peers.rows.length ≤ S.maxPeers) (requests : List (ℚ × κ)) :
    (l.after S requests).peers.rows.length ≤ S.maxPeers := by
  induction requests generalizing l with
  | nil => exact h
  | cons r rest ih => exact ih (length_allow h)

end RequestRateLimiter

/-- **The bounds of the limiter.** In every window the admissions of a peer, and of all peers, stay within
the burst and what is gained in the window; the table of peers stays within its bound; and the requests
that are admitted are those that would be with all buckets kept. -/
theorem rate_limiter_bounds (S : LimiterSettings) (clock : ℚ) (requests : List (ℚ × κ))
    (hsorted : (clock :: requests.map Prod.fst).Pairwise (· ≤ ·)) :
    (∀ (p : κ) (s T : ℚ), 0 ≤ T → (((RequestRateLimiter.start S clock).admitted S requests).countP
        (fun r => r.2 = p ∧ s ≤ r.1 ∧ r.1 ≤ s + T) : ℚ) ≤ S.peerBurst + S.peerRate * T) ∧
    (∀ s T : ℚ, 0 ≤ T → (((RequestRateLimiter.start S clock).admitted S requests).countP
        (fun r => s ≤ r.1 ∧ r.1 ≤ s + T) : ℚ) ≤ S.totalBurst + S.totalRate * T) ∧
    (∀ before, before <+: requests →
      ((RequestRateLimiter.start S clock).after S before).peers.rows.length ≤ S.maxPeers) ∧
    (RequestRateLimiter.start S clock).admitted S requests =
      (KeepingLimiter.start S clock).admitted S requests := by
  have hsame := admitted_same (sameBuckets_start (κ := κ) (S := S) clock) hsorted
  have hfull : ∀ burst rate : ℚ, 0 < burst → 0 ≤ (⟨burst, clock⟩ : Bucket ℚ).level burst rate clock := by
    intro burst rate hpos
    rw [Bucket.level_self, min_self]
    exact hpos.le
  refine ⟨fun p s T hT => ?_, fun s T hT => ?_, fun before _ => ?_, hsame⟩
  · rw [hsame, KeepingLimiter.countP_admitted_peer]
    have := taken_in_window_le S.peerRate_pos.le S.peerBurst_pos.le
      (KeepingLimiter.admissible_peer (p := p) (k := .start S clock) hsorted) (le_refl clock)
      (hfull _ _ S.peerBurst_pos) (le_add_of_nonneg_right hT : s ≤ s + T)
    rwa [add_sub_cancel_left] at this
  · rw [hsame, KeepingLimiter.countP_admitted_total]
    have := taken_in_window_le S.totalRate_pos.le S.totalBurst_pos.le
      (KeepingLimiter.admissible_total (k := .start S clock) hsorted) (le_refl clock)
      (hfull _ _ S.totalBurst_pos) (le_add_of_nonneg_right hT : s ≤ s + T)
    rwa [add_sub_cancel_left] at this
  · exact RequestRateLimiter.length_after (Nat.zero_le _) before

/-- One place, that a second peer gets when the bucket of the first is full again. -/
def onePlace : LimiterSettings where
  peerRate := 1
  peerBurst := 1
  totalRate := 1
  totalBurst := 1 + 1
  maxPeers := 1
  peerRate_pos := one_pos
  peerBurst_pos := one_pos
  totalRate_pos := one_pos
  totalBurst_pos := add_pos one_pos one_pos

theorem rate_limiter_bounds_onePlace :
    (RequestRateLimiter.start onePlace 0).admitted onePlace [(0, 1), (1, 2), (1, 1)] =
      (KeepingLimiter.start onePlace 0).admitted onePlace [(0, 1), (1, 2), (1, 1)] :=
  (rate_limiter_bounds onePlace 0 [(0, 1), (1, 2), (1, 1)] (by simp)).2.2.2

end

end StageForge
