import StageForge.Interop.ProfileProjection
import StageForge.Native.TransportClock

/-!
# Projections of a profile in both languages

`ProfileProjector` of `native/profile_projection.hpp` beside `project_profile`: both select one preference
for each namespace and key and say where the user has to consent.
-/

namespace StageForge

open Python

/-! ## `ProfileProjector` -/

structure ProfilePreference (D : FloatType) where
  namespaceId : UInt64
  keyId : UInt64
  layer : Layer
  type : PreferenceType
  revision : UInt64
  integerValue : Int64
  scalarValue : D.Carrier
  tokenValue : UInt64

structure ProfileProjectionCandidate (D : FloatType) where
  preference : ProfilePreference D
  accessibility : Bool

structure ProfileProjectionEntry (D : FloatType) where
  preference : ProfilePreference D
  consentRequired : Bool

structure NativeProjection (D : FloatType) where
  entries : List (ProfileProjectionEntry D)
  digest : UInt64
  consentRequired : ℕ
  physicalOutputsArmed : Bool

/-- `Capacity`. -/
def projectionCapacity : ℕ := 128

section

variable {D : FloatType}

/-- `rank`. -/
def nativeRank (accessibility : Bool) (layer : Layer) : ℕ :=
  if accessibility = true ∧ layer = .venue then 1
  else if accessibility = true ∧ layer = .user then 2
  else layer.rank

def ProfilePreference.ids (p : ProfilePreference D) : UInt64 × UInt64 := (p.namespaceId, p.keyId)

def ProfilePreference.different (a b : ProfilePreference D) : Bool :=
  a.type ≠ b.type || a.integerValue ≠ b.integerValue || !D.equal a.scalarValue b.scalarValue ||
    a.tokenValue ≠ b.tokenValue

/-- `mix`: the bytes of a number, the lowest first. -/
def mixDigest (hash value : UInt64) : UInt64 := (List.range 8).foldl
    (fun hash i => (hash ^^^ ((value >>> (UInt64.ofNat (8 * i))) &&& 0xff)) * 1099511628211)
    (if hash = 0 then 14695981039346656037 else hash)

/-- A candidate takes the place of what is selected for its namespace and key, if it ranks higher; what is
selected is ranked with the flag of the candidate. -/
def ProfileProjectionCandidate.takesPlace (c : ProfileProjectionCandidate D)
    (selected : ProfilePreference D) : Bool :=
  nativeRank c.accessibility selected.layer < nativeRank c.accessibility c.preference.layer ||
    (nativeRank c.accessibility c.preference.layer = nativeRank c.accessibility selected.layer &&
      selected.revision < c.preference.revision)

/-- One turn of the first loop. No two entries have the same namespace and key. -/
def place (entries : List (ProfilePreference D)) (c : ProfileProjectionCandidate D) :
    List (ProfilePreference D) :=
  if entries.any fun selected => selected.ids = c.preference.ids then
    entries.map fun selected =>
      if selected.ids = c.preference.ids then
        if c.takesPlace selected then c.preference else selected
      else selected
  else entries ++ [c.preference]

def nativeConsent (candidates : List (ProfileProjectionCandidate D)) (p : ProfilePreference D) : Bool :=
  p.layer.overrides && candidates.any fun c =>
    c.preference.ids = p.ids && c.preference.layer = .user && c.preference.different p

/-- `project`. -/
def nativeProject (candidates : List (ProfileProjectionCandidate D)) : NativeProjection D :=
  let used := candidates.take projectionCapacity
  let entries := (used.foldl place []).map fun p => ⟨p, nativeConsent used p⟩
  { entries
    digest := entries.foldl (fun digest e =>
      mixDigest (mixDigest (mixDigest digest e.preference.namespaceId) e.preference.keyId)
        e.preference.revision) 0
    consentRequired := entries.countP ProfileProjectionEntry.consentRequired
    physicalOutputsArmed := false }

end

/-! ## The same preferences -/

/-- The hashes of namespaces, keys and tokens, and the double of a number. -/
structure PreferenceHashes (D : FloatType) where
  nameSpace : String → UInt64
  key : String → UInt64
  token : String → UInt64
  double : Number → D.Carrier

namespace PreferenceHashes

variable {D : FloatType} (H : PreferenceHashes D)

def encode (a : Preference) : ProfilePreference D where
  namespaceId := H.nameSpace a.nameSpace
  keyId := H.key a.key
  layer := a.layer
  type := a.type
  revision := UInt64.ofNat a.revision.toNat
  integerValue := match a.type, a.value with
    | .boolean, .bool b => if b then 1 else 0
    | .integer, .int n => Int64.ofInt n
    | _, _ => 0
  scalarValue := match a.type, a.value.number? with
    | .scalar, some x => H.double x
    | _, _ => D.literal 0
  tokenValue := match a.type, a.value with
    | .token, .str s => H.token s
    | _, _ => 0

/-- The flag says whether the namespace is one of accessibility. -/
def candidate (a : Preference) : ProfileProjectionCandidate D := ⟨H.encode a, isAccessibility a.nameSpace⟩

/-- The hashes tell the preferences apart. -/
structure Injective (preferences : List Preference) : Prop where
  nameSpace : ∀ a ∈ preferences, ∀ b ∈ preferences,
    H.nameSpace a.nameSpace = H.nameSpace b.nameSpace → a.nameSpace = b.nameSpace
  key : ∀ a ∈ preferences, ∀ b ∈ preferences, H.key a.key = H.key b.key → a.key = b.key
  token : ∀ a ∈ preferences, ∀ b ∈ preferences, ∀ s t, a.value = .str s → b.value = .str t →
    H.token s = H.token t → s = t

end PreferenceHashes

/-- Both sides can hold the list, and the revisions are ones of a profile. -/
structure Representable (preferences : List Preference) : Prop where
  length_le : preferences.length ≤ projectionCapacity
  revision_pos : ∀ a ∈ preferences, 1 ≤ a.revision
  revision_lt : ∀ a ∈ preferences, a.revision < 2 ^ 64

section

variable {D : FloatType} (H : PreferenceHashes D) (preferences : List Preference)

/-- The projections select the same preference for every namespace and key, and ask for the same consent. -/
def ProjectionsAgree (F : FloatText) (sha256 : String → String) (profile : UserProfile) : Prop :=
  let python := project F sha256 profile
  let native := nativeProject (profile.preferences.map H.candidate)
  native.entries.length = python.values.length ∧
    ∀ chosen ∈ python.values, ∃ e ∈ native.entries, e.preference = H.encode chosen ∧
      (e.consentRequired = true ↔
        ∃ item ∈ python.consentRequired, (item.nameSpace, item.key) = chosen.identity)

/-- Some preference of a layer is for a namespace and key. -/
def Occurs (identity : String × String) (layer : Layer) : Prop :=
  ∃ a ∈ preferences, a.identity = identity ∧ a.layer = layer

/-- Some preference of a layer has a higher revision than all of another layer for a namespace and key, or
the same and comes before them. -/
def Leads (identity : String × String) (layer other : Layer) : Prop :=
  ∃ (i : ℕ) (a : Preference), preferences[i]? = some a ∧ a.identity = identity ∧ a.layer = layer ∧
    ∀ (j : ℕ) b, preferences[j]? = some b → b.identity = identity → b.layer = other →
      b.revision < a.revision ∨ b.revision = a.revision ∧ i < j

/-- Where the ranks for accessibility come to the same: a user's preference is not beside one of a session,
and leads those of a role; without both, those of a role lead those of a venue. -/
def RanksAgree : Prop := ∀ nameSpace key, isAccessibility nameSpace = true →
    (Occurs preferences (nameSpace, key) .user →
      ¬Occurs preferences (nameSpace, key) .session ∧ Leads preferences (nameSpace, key) .user .role) ∧
    (¬Occurs preferences (nameSpace, key) .user → ¬Occurs preferences (nameSpace, key) .session →
      Occurs preferences (nameSpace, key) .role → Leads preferences (nameSpace, key) .role .venue)

/-- Where a preference of another layer ranks highest, the first value of the user differs from it as Python
compares values, exactly if any does as the native side compares them. -/
def ConsentAgrees : Prop :=
  ∀ chosen, IsFirstBest Preference.identity Preference.rank preferences chosen →
    chosen.layer.overrides = true →
      ((∃ own ∈ preferences, own.identity = chosen.identity ∧ own.layer = .user ∧
          (H.encode own).different (H.encode chosen) = true) ↔
        ∃ user, userChoice preferences chosen.identity = some user ∧ chosen.value.same user.value = false)

end

/-! ## What the native side selects -/

section

variable {D : FloatType} {H : PreferenceHashes D} {preferences kept : List Preference}
  {a b chosen : Preference}

def Preference.nativeRank (a : Preference) : ℕ ×ₗ ℤ :=
  toLex (StageForge.nativeRank (isAccessibility a.nameSpace) a.layer, a.revision)

lemma ids_eq_iff (hinj : H.Injective preferences) (ha : a ∈ preferences) (hb : b ∈ preferences) :
    (H.encode a).ids = (H.encode b).ids ↔ a.identity = b.identity := by
  constructor
  · intro h
    obtain ⟨hname, hkey⟩ := Prod.mk.inj h
    exact Prod.ext (hinj.nameSpace a ha b hb hname) (hinj.key a ha b hb hkey)
  · intro h
    obtain ⟨hname, hkey⟩ := Prod.mk.inj h
    exact Prod.ext (congrArg H.nameSpace hname) (congrArg H.key hkey)

lemma revision_lt_iff (hrep : Representable preferences) (ha : a ∈ preferences) (hb : b ∈ preferences) :
    (H.encode a).revision < (H.encode b).revision ↔ a.revision < b.revision := by
  have := hrep.revision_pos a ha
  have := hrep.revision_pos b hb
  have := hrep.revision_lt a ha
  have := hrep.revision_lt b hb
  change UInt64.ofNat a.revision.toNat < UInt64.ofNat b.revision.toNat ↔ _
  rw [UInt64.lt_iff_toNat_lt, UInt64.toNat_ofNat_of_lt' (by rw [UInt64.size]; omega),
    UInt64.toNat_ofNat_of_lt' (by rw [UInt64.size]; omega)]
  omega

lemma takesPlace_iff (hrep : Representable preferences) (ha : a ∈ preferences) (hb : b ∈ preferences)
    (h : a.identity = b.identity) :
    (H.candidate b).takesPlace (H.encode a) = true ↔ a.nativeRank < b.nativeRank := by
  have hname : a.nameSpace = b.nameSpace := congrArg Prod.fst h
  rw [Preference.nativeRank, Preference.nativeRank, hname, Prod.Lex.toLex_lt_toLex,
    ProfileProjectionCandidate.takesPlace, Bool.or_eq_true, Bool.and_eq_true, decide_eq_true_eq,
    decide_eq_true_eq, decide_eq_true_eq]
  have hrevision := revision_lt_iff (H := H) hrep ha hb
  constructor
  · rintro (hlt | ⟨heq, hlt⟩)
    · exact Or.inl hlt
    · exact Or.inr ⟨heq.symm, hrevision.mp hlt⟩
  · rintro (hlt | ⟨heq, hlt⟩)
    · exact Or.inl hlt
    · exact Or.inr ⟨heq.symm, hrevision.mpr hlt⟩

lemma place_encode (hinj : H.Injective preferences) (hrep : Representable preferences)
    (hkept : ∀ a ∈ kept, a ∈ preferences) (hb : b ∈ preferences) :
    place (kept.map H.encode) (H.candidate b) =
      (putBest Preference.identity Preference.nativeRank kept b).map H.encode := by
  have hany : ((kept.map H.encode).any fun selected => selected.ids = (H.candidate b).preference.ids) =
      kept.any fun a => a.identity = b.identity := by
    rw [List.any_map, Bool.eq_iff_iff, List.any_eq_true, List.any_eq_true]
    refine exists_congr fun a => and_congr_right fun ha => ?_
    rw [Function.comp_apply, decide_eq_true_eq, decide_eq_true_eq]
    exact ids_eq_iff hinj (hkept a ha) hb
  rw [place, putBest, hany]
  split
  · rw [List.map_map, List.map_map]
    refine List.map_congr_left fun a ha => ?_
    have hids : (H.encode a).ids = (H.candidate b).preference.ids ↔ a.identity = b.identity :=
      ids_eq_iff hinj (hkept a ha) hb
    have htakes := takesPlace_iff (H := H) hrep (hkept a ha) hb
    dsimp only [Function.comp_apply]
    by_cases heq : a.identity = b.identity
    · rw [if_pos (hids.mpr heq), if_pos heq, better]
      by_cases hlt : a.nativeRank < b.nativeRank
      · rw [if_pos ((htakes heq).mpr hlt), if_pos hlt]
        rfl
      · rw [if_neg (mt (htakes heq).mp hlt), if_neg hlt]
    · rw [if_neg (mt hids.mp heq), if_neg heq]
  · rw [List.map_append]
    rfl

/-- **What the native side selects.** By induction on the candidates. -/
lemma foldl_place (hinj : H.Injective preferences) (hrep : Representable preferences) :
    (preferences.map H.candidate).foldl place [] =
      (bestPerKey Preference.identity Preference.nativeRank preferences).map H.encode := by
  suffices h : ∀ rest kept : List Preference, (∀ a ∈ kept, a ∈ preferences) → (∀ a ∈ rest, a ∈ preferences) →
      (rest.map H.candidate).foldl place (kept.map H.encode) =
        (rest.foldl (putBest Preference.identity Preference.nativeRank) kept).map H.encode from
    h preferences [] (fun _ ha => absurd ha List.not_mem_nil) fun _ ha => ha
  intro rest
  induction rest with
  | nil => exact fun _ _ _ => rfl
  | cons b rest ih =>
    intro kept hkept hrest
    rw [List.forall_mem_cons] at hrest
    rw [List.map_cons, List.foldl_cons, List.foldl_cons, place_encode hinj hrep hkept hrest.1]
    refine ih _ (fun a ha => ?_) hrest.2
    rcases mem_putBest ha with ⟨hmem, -⟩ | ⟨c, hc, -, rfl⟩ | ⟨rfl, -⟩
    · exact hkept a hmem
    · unfold better
      split
      · exact hrest.1
      · exact hkept c hc
    · exact hrest.1

lemma nativeProject_entries (hinj : H.Injective preferences) (hrep : Representable preferences) :
    (nativeProject (preferences.map H.candidate)).entries =
      (bestPerKey Preference.identity Preference.nativeRank preferences).map fun a =>
        ⟨H.encode a, nativeConsent (preferences.map H.candidate) (H.encode a)⟩ := by
  have htake : (preferences.map H.candidate).take projectionCapacity = preferences.map H.candidate :=
    List.take_of_length_le (by rw [List.length_map]; exact hrep.length_le)
  rw [nativeProject]
  rw [htake, foldl_place hinj hrep, List.map_map]
  rfl

end

/-! ## The first of the highest -/

section

variable {preferences : List Preference} {identity : String × String} {a b : Preference} {i j : ℕ}
  {r r' : Layer → ℕ}

/-- The first preference for a namespace and key of the highest layer, and in it of the highest revision. -/
structure FirstBy (preferences : List Preference) (r : Layer → ℕ) (identity : String × String) (i : ℕ)
    (a : Preference) : Prop where
  get : preferences[i]? = some a
  key : a.identity = identity
  beats : ∀ (j : ℕ) b, preferences[j]? = some b → b.identity = identity →
    r b.layer < r a.layer ∨ r b.layer = r a.layer ∧
      (b.revision < a.revision ∨ b.revision = a.revision ∧ i ≤ j)

lemma exists_firstBy {rank : Preference → ℕ ×ₗ ℤ}
    (hrank : ∀ b, b.identity = a.identity → rank b = toLex (r b.layer, b.revision))
    (h : IsFirstBest Preference.identity rank preferences a) :
    ∃ i, FirstBy preferences r a.identity i a := by
  obtain ⟨i, hget, hbest⟩ := h
  refine ⟨i, hget, rfl, fun j b hb hkey => ?_⟩
  have hbeats := hbest j b hb hkey
  rw [hrank b hkey, hrank a rfl, Prod.Lex.toLex_lt_toLex, toLex.injective.eq_iff, Prod.mk.injEq] at hbeats
  rcases hbeats with (hlt | ⟨heq, hlt⟩) | ⟨⟨heq, hrevision⟩, hle⟩
  · exact Or.inl hlt
  · exact Or.inr ⟨heq, Or.inl hlt⟩
  · exact Or.inr ⟨heq, Or.inr ⟨hrevision, hle⟩⟩

lemma FirstBy.le (h : FirstBy preferences r identity i a) (hb : b ∈ preferences)
    (hkey : b.identity = identity) : r b.layer ≤ r a.layer := by
  obtain ⟨j, hj⟩ := List.mem_iff_getElem?.mp hb
  rcases h.beats j b hj hkey with hlt | ⟨heq, -⟩
  · exact hlt.le
  · exact heq.le

lemma FirstBy.eq_of_layer (h : FirstBy preferences r identity i a) (h' : FirstBy preferences r' identity j b)
    (hlayer : a.layer = b.layer) : a = b := by
  have hij : b.revision < a.revision ∨ b.revision = a.revision ∧ i ≤ j := by
    rcases h.beats j b h'.get h'.key with hlt | ⟨-, hbeats⟩
    · rw [hlayer] at hlt
      exact absurd hlt (lt_irrefl _)
    · exact hbeats
  have hji : a.revision < b.revision ∨ a.revision = b.revision ∧ j ≤ i := by
    rcases h'.beats i a h.get h.key with hlt | ⟨-, hbeats⟩
    · rw [hlayer] at hlt
      exact absurd hlt (lt_irrefl _)
    · exact hbeats
  have heq : i = j := by omega
  have hget := h.get
  rw [heq, h'.get] at hget
  exact (Option.some.inj hget).symm

lemma Leads.not_first {layer other : Layer} (hlead : Leads preferences identity layer other)
    (h : FirstBy preferences r identity i a) (hsame : r layer = r other) : a.layer ≠ other := by
  intro hlayer
  obtain ⟨j, b, hj, hkey, hb, hleads⟩ := hlead
  have hless := hleads i a h.get h.key hlayer
  rcases h.beats j b hj hkey with hlt | ⟨-, hbeats⟩
  · rw [hb, hlayer, hsame] at hlt
    exact absurd hlt (lt_irrefl _)
  · omega

lemma FirstBy.leads (h : FirstBy preferences r identity i a) {other : Layer} (hne : a.layer ≠ other)
    (hsame : r a.layer = r other) : Leads preferences identity a.layer other := by
  refine ⟨i, a, h.get, h.key, rfl, fun j b hj hkey hlayer => ?_⟩
  rcases h.beats j b hj hkey with hlt | ⟨-, hlt | ⟨heq, hle⟩⟩
  · rw [hlayer, hsame] at hlt
    exact absurd hlt (lt_irrefl _)
  · exact Or.inl hlt
  · refine Or.inr ⟨heq, lt_of_le_of_ne hle ?_⟩
    rintro rfl
    rw [h.get] at hj
    rw [Option.some.inj hj] at hne
    exact hne hlayer

def accessibilityRank : Layer → ℕ
  | .base => 0
  | .user => 6
  | .role => 2
  | .venue => 2
  | .session => 4

def nativeAccessibilityRank : Layer → ℕ
  | .base => 0
  | .user => 2
  | .role => 2
  | .venue => 1
  | .session => 4

lemma layer_eq_iff (h : FirstBy preferences accessibilityRank identity i a)
    (h' : FirstBy preferences nativeAccessibilityRank identity j b) :
    a.layer = b.layer ↔ (Occurs preferences identity .user →
        ¬Occurs preferences identity .session ∧ Leads preferences identity .user .role) ∧
      (¬Occurs preferences identity .user → ¬Occurs preferences identity .session →
        Occurs preferences identity .role → Leads preferences identity .role .venue) := by
  have ha : Occurs preferences identity a.layer := ⟨a, List.mem_of_getElem? h.get, h.key, rfl⟩
  have hb : Occurs preferences identity b.layer := ⟨b, List.mem_of_getElem? h'.get, h'.key, rfl⟩
  have hle {layer : Layer} (hoccurs : Occurs preferences identity layer) :
      accessibilityRank layer ≤ accessibilityRank a.layer ∧
        nativeAccessibilityRank layer ≤ nativeAccessibilityRank b.layer := by
    obtain ⟨c, hc, hkey, rfl⟩ := hoccurs
    exact ⟨h.le hc hkey, h'.le hc hkey⟩
  constructor
  · intro hlayer
    refine ⟨fun huser => ?_, fun hnouser hnosession hrole => ?_⟩
    · have hauser : a.layer = .user := by
        have hrank := (hle huser).1
        revert hrank
        cases a.layer <;> decide
      have hbuser : b.layer = .user := hlayer.symm.trans hauser
      refine ⟨fun hsession => ?_, ?_⟩
      · have hrank := (hle hsession).2
        rw [hbuser] at hrank
        exact absurd hrank (by decide)
      · have hleads := @FirstBy.leads _ _ _ _ _ h' .role (by rw [hbuser]; decide) (by rw [hbuser]; rfl)
        rwa [hbuser] at hleads
    · have hbrole : b.layer = .role := by
        have hrank := (hle hrole).2
        revert hrank hb
        cases b.layer with
        | base => exact fun _ hrank => absurd hrank (by decide)
        | user => exact fun hoccurs => absurd hoccurs hnouser
        | role => exact fun _ _ => rfl
        | venue => exact fun _ hrank => absurd hrank (by decide)
        | session => exact fun hoccurs => absurd hoccurs hnosession
      have harole : a.layer = .role := hlayer.trans hbrole
      have hleads := @FirstBy.leads _ _ _ _ _ h .venue (by rw [harole]; decide) (by rw [harole]; rfl)
      rwa [harole] at hleads
  · rintro ⟨hwith, hwithout⟩
    by_cases huser : Occurs preferences identity .user
    · obtain ⟨hnosession, hlead⟩ := hwith huser
      have hnotrole := hlead.not_first h' rfl
      have hrank := (hle huser).1
      have hrank' := (hle huser).2
      have hauser : a.layer = .user := by
        revert hrank
        cases a.layer <;> decide
      rw [hauser]
      revert hrank' hb hnotrole
      cases b.layer with
      | user => exact fun _ _ _ => rfl
      | role => exact fun _ hnot => absurd rfl hnot
      | session => exact fun hoccurs => absurd hoccurs hnosession
      | base => exact fun _ _ hrank => absurd hrank (by decide)
      | venue => exact fun _ _ hrank => absurd hrank (by decide)
    · by_cases hsession : Occurs preferences identity .session
      · have hrank := (hle hsession).1
        have hrank' := (hle hsession).2
        revert hrank hrank' ha
        cases a.layer with
        | user => exact fun hoccurs => absurd hoccurs huser
        | session => cases b.layer <;> simp [nativeAccessibilityRank]
        | base => exact fun _ hrank => absurd hrank (by decide)
        | role => exact fun _ hrank => absurd hrank (by decide)
        | venue => exact fun _ hrank => absurd hrank (by decide)
      · by_cases hrole : Occurs preferences identity .role
        · have hnotvenue := (hwithout huser hsession hrole).not_first h rfl
          have hrank := (hle hrole).1
          have hrank' := (hle hrole).2
          have hbrole : b.layer = .role := by
            revert hrank' hb
            cases b.layer with
            | base => exact fun _ hrank => absurd hrank (by decide)
            | user => exact fun hoccurs => absurd hoccurs huser
            | role => exact fun _ _ => rfl
            | venue => exact fun _ hrank => absurd hrank (by decide)
            | session => exact fun hoccurs => absurd hoccurs hsession
          rw [hbrole]
          revert hrank ha hnotvenue
          cases a.layer with
          | base => exact fun _ _ hrank => absurd hrank (by decide)
          | user => exact fun hoccurs => absurd hoccurs huser
          | role => exact fun _ _ _ => rfl
          | venue => exact fun _ hnot => absurd rfl hnot
          | session => exact fun hoccurs => absurd hoccurs hsession
        · have hcross := (hle hb).1
          have hcross' := (hle ha).2
          revert hcross hcross' ha hb
          cases a.layer with
          | user => exact fun hoccurs => absurd hoccurs huser
          | role => exact fun hoccurs => absurd hoccurs hrole
          | session => exact fun hoccurs => absurd hoccurs hsession
          | base =>
            cases b.layer with
            | user => exact fun _ hoccurs => absurd hoccurs huser
            | role => exact fun _ hoccurs => absurd hoccurs hrole
            | session => exact fun _ hoccurs => absurd hoccurs hsession
            | base => exact fun _ _ _ _ => rfl
            | venue => exact fun _ _ hrank => absurd hrank (by decide)
          | venue =>
            cases b.layer with
            | user => exact fun _ hoccurs => absurd hoccurs huser
            | role => exact fun _ hoccurs => absurd hoccurs hrole
            | session => exact fun _ hoccurs => absurd hoccurs hsession
            | base => exact fun _ _ _ hrank => absurd hrank (by decide)
            | venue => exact fun _ _ _ _ => rfl

end

/-! ## Agreement -/

section

variable {D : FloatType} {H : PreferenceHashes D} {preferences : List Preference} {a b chosen : Preference}

lemma layerRank_of_accessibility {nameSpace : String} (h : isAccessibility nameSpace = true)
    (layer : Layer) : layerRank nameSpace layer = accessibilityRank layer := by
  unfold layerRank
  rw [if_pos h]
  cases layer <;> rfl

lemma nativeRank_of_accessibility (layer : Layer) : nativeRank true layer = nativeAccessibilityRank layer := by
  cases layer <;> rfl

lemma selected_eq_iff (ha : IsFirstBest Preference.identity Preference.rank preferences a)
    (hb : IsFirstBest Preference.identity Preference.nativeRank preferences b)
    (h : b.identity = a.identity) : b = a ↔ b.layer = a.layer := by
  refine ⟨fun heq => heq ▸ rfl, fun hlayer => ?_⟩
  have hname {c d : Preference} (h : c.identity = d.identity) : c.nameSpace = d.nameSpace :=
    congrArg Prod.fst h
  obtain ⟨i, hi⟩ := exists_firstBy (r := layerRank a.nameSpace)
    (fun c hc => by rw [Preference.rank, hname hc]) ha
  obtain ⟨j, hj⟩ := exists_firstBy (r := nativeRank (isAccessibility b.nameSpace))
    (fun c hc => by rw [Preference.nativeRank, hname hc]) hb
  rw [h] at hj
  exact (hi.eq_of_layer hj hlayer.symm).symm

lemma layer_eq_iff_of_accessibility
    (ha : IsFirstBest Preference.identity Preference.rank preferences a)
    (hb : IsFirstBest Preference.identity Preference.nativeRank preferences b)
    (h : b.identity = a.identity) (hacc : isAccessibility a.nameSpace = true) :
    a.layer = b.layer ↔ (Occurs preferences a.identity .user →
        ¬Occurs preferences a.identity .session ∧ Leads preferences a.identity .user .role) ∧
      (¬Occurs preferences a.identity .user → ¬Occurs preferences a.identity .session →
        Occurs preferences a.identity .role → Leads preferences a.identity .role .venue) := by
  have hname {c d : Preference} (h : c.identity = d.identity) : c.nameSpace = d.nameSpace :=
    congrArg Prod.fst h
  obtain ⟨i, hi⟩ := exists_firstBy (r := accessibilityRank)
    (fun c hc => by rw [Preference.rank, hname hc, layerRank_of_accessibility hacc]) ha
  obtain ⟨j, hj⟩ := exists_firstBy (r := nativeAccessibilityRank)
    (fun c hc => by rw [Preference.nativeRank, hname (hc.trans h), hacc, nativeRank_of_accessibility]) hb
  rw [h] at hj
  exact layer_eq_iff hi hj

lemma rank_eq_of_not_accessibility (h : isAccessibility a.nameSpace = false) : a.nativeRank = a.rank := by
  unfold Preference.nativeRank Preference.rank nativeRank layerRank
  simp [h]

lemma mem_values_iff {F : FloatText} {sha256 : String → String} {profile : UserProfile} :
    chosen ∈ (project F sha256 profile).values ↔
      IsFirstBest Preference.identity Preference.rank profile.preferences chosen := by
  rw [project]
  rw [mem_sortOn]
  exact mem_bestPerKey_iff

lemma exists_consent_iff {F : FloatText} {sha256 : String → String} {profile : UserProfile}
    (hchosen : IsFirstBest Preference.identity Preference.rank profile.preferences chosen) :
    (∃ item ∈ (project F sha256 profile).consentRequired, (item.nameSpace, item.key) = chosen.identity) ↔
      chosen.layer.overrides = true ∧ ∃ user, userChoice profile.preferences chosen.identity = some user ∧
        chosen.value.same user.value = false := by
  have hmem : chosen ∈ selectedPreferences profile.preferences := mem_bestPerKey_iff.mpr hchosen
  rw [project]
  constructor
  · rintro ⟨item, hitem, hid⟩
    obtain ⟨c, hc, hentry⟩ := List.mem_filterMap.mp hitem
    obtain ⟨user, huser, hoverrides, hdiffers, rfl⟩ := consentFor_eq_some.mp hentry
    obtain rfl : c = chosen := eq_of_key_eq hc hmem hid
    exact ⟨hoverrides, user, huser, hdiffers⟩
  · rintro ⟨hoverrides, user, huser, hdiffers⟩
    exact ⟨_, List.mem_filterMap.mpr ⟨chosen, hmem,
      consentFor_eq_some.mpr ⟨user, huser, hoverrides, hdiffers, rfl⟩⟩, rfl⟩

lemma nativeConsent_iff (hinj : H.Injective preferences) (hchosen : chosen ∈ preferences) :
    nativeConsent (preferences.map H.candidate) (H.encode chosen) = true ↔
      chosen.layer.overrides = true ∧ ∃ own ∈ preferences, own.identity = chosen.identity ∧
        own.layer = .user ∧ (H.encode own).different (H.encode chosen) = true := by
  rw [nativeConsent, Bool.and_eq_true, List.any_map, List.any_eq_true]
  refine and_congr Iff.rfl (exists_congr fun own => and_congr_right fun hown => ?_)
  have hids := ids_eq_iff hinj hown hchosen
  rw [Function.comp_apply, Bool.and_eq_true, Bool.and_eq_true, decide_eq_true_eq, decide_eq_true_eq,
    and_assoc]
  exact and_congr hids Iff.rfl

lemma exists_native (h : a ∈ preferences) :
    ∃ b, IsFirstBest Preference.identity Preference.nativeRank preferences b ∧ b.identity = a.identity := by
  obtain ⟨b, hb, hkey⟩ := @exists_mem_bestPerKey _ _ _ _ _ Preference.identity Preference.nativeRank _ _ h
  exact ⟨b, mem_bestPerKey_iff.mp hb, hkey⟩

/-- Preferences for one namespace and key are first of both tables together. -/
def SameFirst (preferences : List Preference) : Prop :=
  ∀ chosen, IsFirstBest Preference.identity Preference.rank preferences chosen →
    IsFirstBest Preference.identity Preference.nativeRank preferences chosen

/-- **Both select the same exactly where the ranks agree.** -/
lemma sameFirst_iff : SameFirst preferences ↔ RanksAgree preferences := by
  constructor
  · intro h nameSpace key hacc
    by_cases hany : ∃ c ∈ preferences, c.identity = (nameSpace, key)
    · obtain ⟨c, hc, hkey⟩ := hany
      obtain ⟨a, ha, hid⟩ := @exists_mem_bestPerKey _ _ _ _ _ Preference.identity Preference.rank _ _ hc
      have hfirst := mem_bestPerKey_iff.mp ha
      have hidentity : a.identity = (nameSpace, key) := hid.trans hkey
      have hname : a.nameSpace = nameSpace := congrArg Prod.fst hidentity
      have hlayers := (layer_eq_iff_of_accessibility hfirst (h a hfirst) rfl (hname ▸ hacc)).mp rfl
      rwa [hidentity] at hlayers
    · have hnone (layer : Layer) : ¬Occurs preferences (nameSpace, key) layer := by
        rintro ⟨c, hc, hkey, -⟩
        exact hany ⟨c, hc, hkey⟩
      exact ⟨fun huser => absurd huser (hnone _), fun _ _ hrole => absurd hrole (hnone _)⟩
  · intro h a ha
    obtain ⟨b, hb, hkey⟩ := exists_native ha.mem
    by_cases hacc : isAccessibility a.nameSpace = true
    · have hlayer := (layer_eq_iff_of_accessibility ha hb hkey hacc).mpr (h a.nameSpace a.key hacc)
      rw [← (selected_eq_iff ha hb hkey).mpr hlayer.symm]
      exact hb
    · have hnot : isAccessibility a.nameSpace = false := by simpa using hacc
      obtain ⟨i, hi, hbest⟩ := ha
      refine ⟨i, hi, fun j c hj hc => ?_⟩
      have hname : c.nameSpace = a.nameSpace := congrArg Prod.fst hc
      rw [rank_eq_of_not_accessibility hnot, rank_eq_of_not_accessibility (by rwa [hname])]
      exact hbest j c hj hc

/-- **The projections agree exactly where the ranks and the rules for consent come to the same.** -/
theorem projections_agree_iff (F : FloatText) (sha256 : String → String) (profile : UserProfile)
    (hinj : H.Injective profile.preferences) (hrep : Representable profile.preferences) :
    ProjectionsAgree H F sha256 profile ↔
      RanksAgree profile.preferences ∧ ConsentAgrees H profile.preferences := by
  have hentries := nativeProject_entries hinj hrep
  have hlength : (nativeProject (profile.preferences.map H.candidate)).entries.length =
      (project F sha256 profile).values.length := by
    rw [hentries, List.length_map, project]
    rw [sortOn_perm.length_eq, ← List.length_map Preference.identity, selectedPreferences,
      ← List.length_map Preference.identity]
    refine List.Perm.length_eq ((List.perm_ext_iff_of_nodup keys_nodup keys_nodup).mpr fun identity => ?_)
    rw [mem_keys_bestPerKey, mem_keys_bestPerKey]
  rw [← sameFirst_iff]
  constructor
  · rintro ⟨-, h⟩
    have hsame : SameFirst profile.preferences := by
      intro a ha
      obtain ⟨e, he, heq, -⟩ := h a (mem_values_iff.mpr ha)
      rw [hentries] at he
      obtain ⟨b, hb, rfl⟩ := List.mem_map.mp he
      have hfirst := mem_bestPerKey_iff.mp hb
      have hids : b.identity = a.identity :=
        (ids_eq_iff hinj hfirst.mem ha.mem).mp (congrArg ProfilePreference.ids heq)
      have hlayer : b.layer = a.layer := congrArg ProfilePreference.layer heq
      rw [← (selected_eq_iff ha hfirst hids).mpr hlayer]
      exact hfirst
    refine ⟨hsame, fun a ha hoverrides => ?_⟩
    obtain ⟨e, he, heq, hconsent⟩ := h a (mem_values_iff.mpr ha)
    rw [hentries] at he
    obtain ⟨b, hb, rfl⟩ := List.mem_map.mp he
    dsimp only at heq hconsent
    rw [heq, nativeConsent_iff hinj ha.mem, exists_consent_iff ha, hoverrides] at hconsent
    simpa using hconsent
  · rintro ⟨hsame, hconsent⟩
    refine ⟨hlength, fun a ha => ?_⟩
    have hfirst := mem_values_iff.mp ha
    refine ⟨⟨H.encode a, nativeConsent (profile.preferences.map H.candidate) (H.encode a)⟩, ?_, rfl, ?_⟩
    · rw [hentries]
      exact List.mem_map.mpr ⟨a, mem_bestPerKey_iff.mpr (hsame a hfirst), rfl⟩
    · rw [exists_consent_iff hfirst]
      rw [nativeConsent_iff hinj hfirst.mem]
      exact and_congr_right fun hoverrides => hconsent a hfirst hoverrides

lemma admits_token (value : String) : PreferenceType.token.admits (.str value) = true := rfl

def contrastPreference (layer : Layer) (value : String) : Preference where
  nameSpace := "org.upp.accessibility.visual"
  key := "contrast"
  layer := layer
  type := .token
  revision := 1
  value := .str value
  typed := admits_token value
  extra := []

/-- The user wants a high contrast and the session a low one. -/
def contrastProfile : UserProfile where
  profileId := "default"
  revision := 1
  preferences := [contrastPreference .user "high", contrastPreference .session "low"]

def contrastHashes : PreferenceHashes .rationals where
  nameSpace _ := 1
  key _ := 2
  token s := if s = "high" then 3 else 4
  double x := match x with
    | .finite q => q
    | _ => (0 : ℚ)

lemma contrastHashes_injective : contrastHashes.Injective contrastProfile.preferences where
  nameSpace := by simp [contrastProfile, contrastPreference]
  key := by simp [contrastProfile, contrastPreference]
  token := by
    intro a ha b hb s t hs ht h
    simp only [contrastProfile, List.mem_cons, List.not_mem_nil, or_false] at ha hb
    rcases ha with rfl | rfl <;> rcases hb with rfl | rfl <;>
      simp_all [contrastPreference, contrastHashes]

lemma contrastProfile_representable : Representable contrastProfile.preferences where
  length_le := by decide
  revision_pos := by simp [contrastProfile, contrastPreference]
  revision_lt := by simp [contrastProfile, contrastPreference]

theorem contrast_disagrees :
    ¬ProjectionsAgree contrastHashes .fractions (fun text => text) contrastProfile := by
  intro h
  obtain ⟨hranks, -⟩ :=
    (projections_agree_iff _ _ _ contrastHashes_injective contrastProfile_representable).mp h
  have hnosession := ((hranks "org.upp.accessibility.visual" "contrast" (by decide)).1
    ⟨_, List.mem_cons_self, rfl, rfl⟩).1
  exact hnosession ⟨_, List.mem_cons_of_mem _ List.mem_cons_self, rfl, rfl⟩

theorem projections_agree_iff_contrast : contrastHashes.Injective contrastProfile.preferences ∧
    Representable contrastProfile.preferences ∧
    (ProjectionsAgree contrastHashes .fractions (fun text => text) contrastProfile ↔
      RanksAgree contrastProfile.preferences ∧ ConsentAgrees contrastHashes contrastProfile.preferences) :=
  ⟨contrastHashes_injective, contrastProfile_representable,
    projections_agree_iff _ _ _ contrastHashes_injective contrastProfile_representable⟩

end

end StageForge
