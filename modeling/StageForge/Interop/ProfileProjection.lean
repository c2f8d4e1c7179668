import StageForge.Library.BestPerKey
import StageForge.Library.Json
import StageForge.Library.PythonList
import StageForge.Show.Technology

/-!
# Preferences that a session would put over those of a user

A profile has preferences in layers. The projection selects one for each namespace and key, by layer and
then by revision, and asks for consent where a role, venue or session value displaces one of the user.
-/

namespace StageForge

open Python

/-! ## Profiles -/

inductive Layer
  | base
  | user
  | role
  | venue
  | session
  deriving DecidableEq

inductive PreferenceType
  | boolean
  | integer
  | scalar
  | token
  deriving DecidableEq

def Layer.text : Layer → String
  | .base => "base"
  | .user => "user"
  | .role => "role"
  | .venue => "venue"
  | .session => "session"

def PreferenceType.text : PreferenceType → String
  | .boolean => "boolean"
  | .integer => "integer"
  | .scalar => "scalar"
  | .token => "token"

/-- `LAYERS`. -/
def Layer.rank : Layer → ℕ
  | .base => 0
  | .user => 1
  | .role => 2
  | .venue => 3
  | .session => 4

def Layer.overrides (layer : Layer) : Bool := layer ∈ [Layer.role, .venue, .session]

def PreferenceType.admits : PreferenceType → Value → Bool
  | .boolean, .bool _ => true
  | .integer, .int _ => true
  | .scalar, .int _ => true
  | .scalar, .float _ => true
  | .token, .str _ => true
  | _, _ => false

structure Preference where
  nameSpace : String
  key : String
  layer : Layer
  type : PreferenceType
  revision : Int
  value : Value
  typed : type.admits value = true
  extra : Entries
  deriving DecidableEq

structure UserProfile where
  profileId : String
  revision : Int
  preferences : List Preference

namespace Preference

variable (a : Preference)

def identity : String × String := (a.nameSpace, a.key)

def document : Value :=
  .dict ([("namespace", .str a.nameSpace), ("key", .str a.key), ("layer", .str a.layer.text),
    ("type", .str a.type.text), ("revision", .int a.revision), ("value", a.value)] ++ a.extra)

end Preference

/-! ## `project_profile` -/

/-- Preferences for accessibility are ranked by other layers. -/
def isAccessibility (nameSpace : String) : Bool :=
  "org.upp.accessibility".toList.isPrefixOf nameSpace.toList

def layerRank (nameSpace : String) (layer : Layer) : ℕ := if isAccessibility nameSpace then
    match layer with
    | .user => 6
    | .venue => 2
    | layer => layer.rank
  else layer.rank

def Preference.rank (a : Preference) : ℕ ×ₗ ℤ := toLex (layerRank a.nameSpace a.layer, a.revision)

structure ConsentItem where
  nameSpace : String
  key : String
  userValue : Value
  proposedValue : Value
  sourceLayer : Layer
  deriving DecidableEq

def ConsentItem.document (e : ConsentItem) : Value :=
  .dict [("namespace", .str e.nameSpace), ("key", .str e.key), ("userValue", e.userValue),
    ("proposedValue", e.proposedValue), ("sourceLayer", .str e.sourceLayer.text)]

structure Projection where
  profileId : String
  profileRevision : Int
  projectionDigestSha256 : String
  values : List Preference
  consentRequired : List ConsentItem

def Projection.safeToApply (p : Projection) : Bool := p.consentRequired.isEmpty

def Projection.document (p : Projection) : Value :=
  .dict [("profileId", .str p.profileId), ("profileRevision", .int p.profileRevision),
    ("projectionDigestSha256", .str p.projectionDigestSha256),
    ("values", .list (p.values.map Preference.document)),
    ("consentRequired", .list (p.consentRequired.map ConsentItem.document)),
    ("safeToApply", .bool p.safeToApply), ("physicalOutputsArmed", .bool false)]

/-- `selected.values()`. -/
def selectedPreferences (preferences : List Preference) : List Preference :=
  bestPerKey Preference.identity Preference.rank preferences

/-- The first preference of the user for a namespace and key. -/
def userChoice (preferences : List Preference) (identity : String × String) : Option Preference :=
  preferences.find? fun a => a.identity = identity ∧ a.layer = .user

/-- The consent that a selected preference needs. -/
def consentFor (preferences : List Preference) (chosen : Preference) : Option ConsentItem :=
  match userChoice preferences chosen.identity with
  | some user =>
    if chosen.layer.overrides && !chosen.value.same user.value then
      some ⟨chosen.nameSpace, chosen.key, user.value, chosen.value, chosen.layer⟩
    else none
  | none => none

/-- `project_profile`, of a profile in normal form. -/
def project (F : FloatText) (sha256 : String → String) (profile : UserProfile) : Projection :=
  let values := sortOn (fun a : Preference => toLex a.identity) (selectedPreferences profile.preferences)
  { profileId := profile.profileId
    profileRevision := profile.revision
    projectionDigestSha256 := sha256 (dumps F (.list (values.map Preference.document)))
    values
    consentRequired := (selectedPreferences profile.preferences).filterMap (consentFor profile.preferences) }

/-! ## Consent and order -/

section

variable (preferences : List Preference)

/-- No preference with the namespace and key ranks higher. -/
def IsTop (a : Preference) : Prop :=
  a ∈ preferences ∧ IsBest Preference.identity Preference.rank preferences a

/-- The user's own preference of the highest revision. -/
def IsUsers (a : Preference) : Prop := a ∈ preferences ∧ a.layer = .user ∧
    ∀ b ∈ preferences, b.identity = a.identity → b.layer = .user → b.revision ≤ a.revision

/-- Every override of a value of the user is listed with that value, and not safe to apply. -/
def ConsentCovers (projection : Projection) : Prop :=
  ∀ chosen ∈ projection.values, chosen.layer.overrides = true → ∀ own, IsUsers preferences own →
    own.identity = chosen.identity → chosen.value.same own.value = false →
      projection.safeToApply = false ∧ ∃ e ∈ projection.consentRequired,
        (e.nameSpace, e.key) = chosen.identity ∧ e.userValue = own.value ∧
          e.proposedValue = chosen.value ∧ e.sourceLayer = chosen.layer

/-- The user has a value of that namespace and key, which a value of another layer displaces. -/
def NeedsConsent (identity : String × String) : Prop :=
  ∃ chosen own, IsTop preferences chosen ∧ chosen.layer.overrides = true ∧ own ∈ preferences ∧
    own.layer = .user ∧ chosen.identity = identity ∧ own.identity = identity ∧
      chosen.value.same own.value = false

/-- The order of the preferences cannot matter: those of the highest rank are the same, those of the user
that are displaced say the same or all agree with what displaces them, and consent is needed at most once. -/
structure Unambiguous : Prop where
  top : ∀ a b, IsTop preferences a → IsTop preferences b → a.identity = b.identity →
    a.document.canon = b.document.canon
  user : ∀ chosen, IsTop preferences chosen → chosen.layer.overrides = true →
    ∀ own ∈ preferences, ∀ own' ∈ preferences, own.layer = .user → own'.layer = .user →
      own.identity = chosen.identity → own'.identity = chosen.identity →
        chosen.value.same own.value = false → own'.value = own.value
  once : ∀ i j, NeedsConsent preferences i → NeedsConsent preferences j → i = j

end

/-- In every order of the preferences consent covers every override, and the projection is the same. -/
def ConsentSafe (F : FloatText) (sha256 : String → String) (profile : UserProfile) : Prop :=
  ∀ preferences, preferences.Perm profile.preferences →
    ConsentCovers preferences (project F sha256 { profile with preferences }) ∧
      (project F sha256 { profile with preferences }).document.canon =
        (project F sha256 profile).document.canon

/-! ## What a document says -/

lemma PreferenceType.canon_of_admits {type : PreferenceType} {value : Value}
    (h : type.admits value = true) : value.canon = value := by
  cases value with
  | list items => cases type <;> cases h
  | dict entries => cases type <;> cases h
  | _ => rfl

lemma Layer.text_injective {a b : Layer} (h : a.text = b.text) : a = b := by
  revert h
  cases a <;> cases b <;> decide

lemma Preference.of_canon {a b : Preference} (h : a.document.canon = b.document.canon) :
    a.identity = b.identity ∧ a.layer = b.layer ∧ a.value = b.value := by
  have hget (c : Preference) : c.document.get? "namespace" = some (.str c.nameSpace) ∧
      c.document.get? "key" = some (.str c.key) ∧
      c.document.get? "layer" = some (.str c.layer.text) ∧ c.document.get? "value" = some c.value :=
    ⟨rfl, rfl, rfl, rfl⟩
  have hnameSpace := Value.get?_of_canon h "namespace"
  have hkey := Value.get?_of_canon h "key"
  have hlayer := Value.get?_of_canon h "layer"
  have hvalue := Value.get?_of_canon h "value"
  rw [(hget a).1, (hget b).1] at hnameSpace
  rw [(hget a).2.1, (hget b).2.1] at hkey
  rw [(hget a).2.2.1, (hget b).2.2.1] at hlayer
  rw [(hget a).2.2.2, (hget b).2.2.2] at hvalue
  refine ⟨Prod.ext ?_ ?_, Layer.text_injective ?_, ?_⟩
  · exact Value.str.inj (Option.some.inj hnameSpace)
  · exact Value.str.inj (Option.some.inj hkey)
  · exact Value.str.inj (Option.some.inj hlayer)
  · have hsame := Option.some.inj hvalue
    rwa [PreferenceType.canon_of_admits a.typed, PreferenceType.canon_of_admits b.typed] at hsame

lemma ConsentItem.of_canon {e f : ConsentItem} (h : e.document.canon = f.document.canon) :
    (e.nameSpace, e.key) = (f.nameSpace, f.key) ∧ e.userValue.canon = f.userValue.canon := by
  have hget (g : ConsentItem) : g.document.get? "namespace" = some (.str g.nameSpace) ∧
      g.document.get? "key" = some (.str g.key) ∧
      g.document.get? "userValue" = some g.userValue := ⟨rfl, rfl, rfl⟩
  have hnameSpace := Value.get?_of_canon h "namespace"
  have hkey := Value.get?_of_canon h "key"
  have huser := Value.get?_of_canon h "userValue"
  rw [(hget e).1, (hget f).1] at hnameSpace
  rw [(hget e).2.1, (hget f).2.1] at hkey
  rw [(hget e).2.2, (hget f).2.2] at huser
  exact ⟨Prod.ext (Value.str.inj (Option.some.inj hnameSpace))
    (Value.str.inj (Option.some.inj hkey)), Option.some.inj huser⟩

lemma Projection.of_canon {p q : Projection} (h : p.document.canon = q.document.canon) :
    p.values.map (fun a => a.document.canon) = q.values.map (fun a => a.document.canon) ∧
      p.consentRequired.map (fun e => e.document.canon) =
        q.consentRequired.map (fun e => e.document.canon) := by
  have hget (r : Projection) :
      r.document.get? "values" = some (.list (r.values.map Preference.document)) ∧
      r.document.get? "consentRequired" =
        some (.list (r.consentRequired.map ConsentItem.document)) := ⟨rfl, rfl⟩
  have hvalues := Value.get?_of_canon h "values"
  have hconsent := Value.get?_of_canon h "consentRequired"
  rw [(hget p).1, (hget q).1] at hvalues
  rw [(hget p).2, (hget q).2] at hconsent
  have hlist {vs ws : List Value} (h : (some (Value.list vs)).map Value.canon =
      (some (Value.list ws)).map Value.canon) : vs.map Value.canon = ws.map Value.canon := by
    simp only [Option.map_some, Option.some.injEq, Value.canon, Value.list.injEq] at h
    rwa [Value.canonItems_eq_map, Value.canonItems_eq_map] at h
  have hvalues := hlist hvalues
  have hconsent := hlist hconsent
  rw [List.map_map, List.map_map] at hvalues hconsent
  exact ⟨hvalues, hconsent⟩

lemma canonItems_of_map {as bs : List Preference}
    (h : as.map (fun a => a.document.canon) = bs.map fun a => a.document.canon) :
    Value.canonItems (as.map Preference.document) =
      Value.canonItems (bs.map Preference.document) := by
  rw [Value.canonItems_eq_map, Value.canonItems_eq_map, List.map_map, List.map_map]
  exact h

lemma Projection.canon_of_parts {p q : Projection} (hid : p.profileId = q.profileId)
    (hrevision : p.profileRevision = q.profileRevision)
    (hdigest : p.projectionDigestSha256 = q.projectionDigestSha256)
    (hvalues : p.values.map (fun a => a.document.canon) = q.values.map fun a => a.document.canon)
    (hconsent : p.consentRequired = q.consentRequired) : p.document.canon = q.document.canon := by
  have hlist := canonItems_of_map hvalues
  have hsafe : p.safeToApply = q.safeToApply := by
    rw [Projection.safeToApply, Projection.safeToApply, hconsent]
  rw [Projection.document, Projection.document, hid, hrevision, hdigest, hconsent, hsafe]
  simp only [Value.canon, Value.canonEntries, hlist]

/-! ## Orders that tell -/

section

variable {preferences preferences' : List Preference} {chosen own a b : Preference}
  {F : FloatText} {sha256 : String → String} {profile : UserProfile}

lemma isTop_perm (h : preferences'.Perm preferences) : IsTop preferences' a ↔ IsTop preferences a :=
  and_congr h.mem_iff (IsBest.perm h)

lemma isTop_of_mem_selected (h : a ∈ selectedPreferences preferences) : IsTop preferences a :=
  best_of_mem h

lemma mem_selected_of_first (h : IsTop preferences a) :
    a ∈ selectedPreferences (a :: preferences.erase a) := by
  refine mem_bestPerKey_cons ?_
  exact (IsBest.perm (List.perm_cons_erase h.1).symm).mpr h.2

lemma userChoice_of_first (hlayer : own.layer = .user) :
    userChoice (own :: preferences.erase own) own.identity = some own :=
  List.find?_cons_of_pos (by simpa using hlayer)

lemma userChoice_eq_some {identity : String × String}
    (h : userChoice preferences identity = some own) :
    own ∈ preferences ∧ own.identity = identity ∧ own.layer = .user := by
  have hfound : own.identity = identity ∧ own.layer = .user := by simpa using List.find?_some h
  exact ⟨List.mem_of_find?_eq_some h, hfound⟩

lemma exists_userChoice (h : own ∈ preferences) (hlayer : own.layer = .user) :
    ∃ user, userChoice preferences own.identity = some user := by
  refine Option.isSome_iff_exists.mp (List.find?_isSome.mpr ⟨own, h, ?_⟩)
  exact decide_eq_true ⟨rfl, hlayer⟩

lemma consentFor_eq_some {e : ConsentItem} : consentFor preferences chosen = some e ↔
      ∃ user, userChoice preferences chosen.identity = some user ∧ chosen.layer.overrides = true ∧
        chosen.value.same user.value = false ∧
        e = ⟨chosen.nameSpace, chosen.key, user.value, chosen.value, chosen.layer⟩ := by
  unfold consentFor
  cases userChoice preferences chosen.identity with
  | none => exact iff_of_false (by simp) (by simp)
  | some user =>
    dsimp only
    split_ifs with hneeded
    · rw [Bool.and_eq_true, Bool.not_eq_true'] at hneeded
      constructor
      · intro heq
        exact ⟨user, rfl, hneeded.1, hneeded.2, (Option.some.inj heq).symm⟩
      · rintro ⟨_, heq, -, -, rfl⟩
        rw [Option.some.inj heq]
    · refine iff_of_false (by simp) ?_
      rintro ⟨_, heq, hoverrides, hdiffers, -⟩
      cases heq
      exact hneeded (by rw [hoverrides, hdiffers]; rfl)

lemma canon_userValue {e : ConsentItem}
    (he : e ∈ (selectedPreferences preferences).filterMap (consentFor preferences)) :
    e.userValue.canon = e.userValue := by
  obtain ⟨a, -, hea⟩ := List.mem_filterMap.mp he
  obtain ⟨user, -, -, -, rfl⟩ := consentFor_eq_some.mp hea
  exact PreferenceType.canon_of_admits user.typed

lemma consent_unique {e f : ConsentItem}
    (he : e ∈ (selectedPreferences preferences).filterMap (consentFor preferences))
    (hf : f ∈ (selectedPreferences preferences).filterMap (consentFor preferences))
    (h : (e.nameSpace, e.key) = (f.nameSpace, f.key)) : e = f := by
  obtain ⟨a, ha, hea⟩ := List.mem_filterMap.mp he
  obtain ⟨b, hb, hfb⟩ := List.mem_filterMap.mp hf
  obtain ⟨user, huser, -, -, rfl⟩ := consentFor_eq_some.mp hea
  obtain ⟨user', huser', -, -, rfl⟩ := consentFor_eq_some.mp hfb
  obtain rfl : a = b := eq_of_key_eq ha hb h
  rw [Option.some.inj (huser.symm.trans huser')]

/-! ## A safe projection is unambiguous -/

section

variable (h : ConsentSafe F sha256 profile)

include h

lemma ConsentSafe.selected_same (hperm : preferences.Perm profile.preferences)
    (ha : a ∈ selectedPreferences preferences) :
    ∃ b ∈ selectedPreferences profile.preferences, b.document.canon = a.document.canon := by
  obtain ⟨hvalues, -⟩ := Projection.of_canon (h preferences hperm).2
  have hmem : a.document.canon ∈
      (project F sha256 { profile with preferences }).values.map fun a => a.document.canon :=
    List.mem_map_of_mem (mem_sortOn.mpr ha)
  rw [hvalues] at hmem
  obtain ⟨b, hb, heq⟩ := List.mem_map.mp hmem
  exact ⟨b, mem_sortOn.mp hb, heq⟩

lemma ConsentSafe.top (ha : IsTop profile.preferences a) (hb : IsTop profile.preferences b)
    (hidentity : a.identity = b.identity) : a.document.canon = b.document.canon := by
  obtain ⟨c, hc, hca⟩ := h.selected_same (List.perm_cons_erase ha.1).symm (mem_selected_of_first ha)
  obtain ⟨d, hd, hdb⟩ := h.selected_same (List.perm_cons_erase hb.1).symm (mem_selected_of_first hb)
  have hkey : c.identity = d.identity := by
    rw [(Preference.of_canon hca).1, (Preference.of_canon hdb).1, hidentity]
  rw [← hca, ← hdb, eq_of_key_eq hc hd hkey]

lemma ConsentSafe.exists_selected (hperm : preferences.Perm profile.preferences)
    (hchosen : IsTop profile.preferences chosen) :
    ∃ c ∈ selectedPreferences preferences, c.identity = chosen.identity ∧ c.layer = chosen.layer ∧
      c.value = chosen.value := by
  obtain ⟨c, hc, hkey⟩ : ∃ c ∈ selectedPreferences preferences, c.identity = chosen.identity :=
    exists_mem_bestPerKey (hperm.mem_iff.mpr hchosen.1)
  obtain ⟨-, hlayer, hvalue⟩ := Preference.of_canon
    (h.top ((isTop_perm hperm).mp (isTop_of_mem_selected hc)) hchosen hkey)
  exact ⟨c, hc, hkey, hlayer, hvalue⟩

lemma ConsentSafe.consent_same (hperm : preferences.Perm profile.preferences) :
    ((selectedPreferences preferences).filterMap (consentFor preferences)).map
        (fun e => e.document.canon) =
      ((selectedPreferences profile.preferences).filterMap
        (consentFor profile.preferences)).map fun e => e.document.canon :=
  (Projection.of_canon (h preferences hperm).2).2

lemma ConsentSafe.head_consent (hchosen : IsTop profile.preferences chosen)
    (hoverrides : chosen.layer.overrides = true) (hown : own ∈ profile.preferences)
    (hlayer : own.layer = .user) (hidentity : own.identity = chosen.identity)
    (hdiffers : chosen.value.same own.value = false) :
    ∃ e rest, (selectedPreferences profile.preferences).filterMap
        (consentFor profile.preferences) = e :: rest ∧
      (e.nameSpace, e.key) = chosen.identity ∧ e.userValue = own.value := by
  have hperm := (List.perm_cons_erase hown).symm
  obtain ⟨first, others, hselected, hkey⟩ : ∃ first others,
      selectedPreferences (own :: profile.preferences.erase own) = first :: others ∧
        first.identity = own.identity := head_bestPerKey _ _
  have hfirst : first ∈ selectedPreferences (own :: profile.preferences.erase own) := by
    rw [hselected]
    exact List.mem_cons_self
  obtain ⟨c, hc, hid, hlayer', hvalue⟩ := h.exists_selected hperm hchosen
  obtain rfl : first = c := eq_of_key_eq hfirst hc (hkey.trans (hidentity.trans hid.symm))
  have hchoice := @userChoice_of_first profile.preferences own hlayer
  rw [← hkey] at hchoice
  have hentry := consentFor_eq_some.mpr
    ⟨own, hchoice, (congrArg Layer.overrides hlayer').trans hoverrides, hvalue ▸ hdiffers, rfl⟩
  have hsame := h.consent_same hperm
  rw [hselected, List.filterMap_cons_some hentry, List.map_cons] at hsame
  obtain ⟨e, rest, heq, hhead, -⟩ := List.map_eq_cons_iff.mp hsame.symm
  obtain ⟨hname, huser⟩ := ConsentItem.of_canon hhead
  refine ⟨e, rest, heq, hname.trans hid, ?_⟩
  rwa [canon_userValue (heq ▸ List.mem_cons_self), PreferenceType.canon_of_admits own.typed] at huser

lemma ConsentSafe.differs (hchosen : IsTop profile.preferences chosen)
    (hoverrides : chosen.layer.overrides = true) (hown : own ∈ profile.preferences)
    (hlayer : own.layer = .user) (hidentity : own.identity = chosen.identity)
    (hdiffers : chosen.value.same own.value = false) {own' : Preference}
    (hown' : own' ∈ profile.preferences) (hlayer' : own'.layer = .user)
    (hidentity' : own'.identity = chosen.identity) : chosen.value.same own'.value = false := by
  obtain ⟨e, rest, heq, hname, -⟩ :=
    h.head_consent hchosen hoverrides hown hlayer hidentity hdiffers
  have hperm := (List.perm_cons_erase hown').symm
  have hmem : e.document.canon ∈ ((selectedPreferences profile.preferences).filterMap
      (consentFor profile.preferences)).map fun e => e.document.canon := by
    rw [heq]
    exact List.mem_cons_self
  rw [← h.consent_same hperm] at hmem
  obtain ⟨f, hf, hcanon⟩ := List.mem_map.mp hmem
  obtain ⟨c, hc, hentry⟩ := List.mem_filterMap.mp hf
  obtain ⟨user, huser, -, hnot, rfl⟩ := consentFor_eq_some.mp hentry
  have hkey : c.identity = chosen.identity := (ConsentItem.of_canon hcanon).1.trans hname
  obtain ⟨d, hd, hid, -, hvalue⟩ := h.exists_selected hperm hchosen
  obtain rfl : c = d := eq_of_key_eq hc hd (hkey.trans hid.symm)
  rw [hkey, ← hidentity', userChoice_of_first hlayer'] at huser
  rw [← hvalue, Option.some.inj huser]
  exact hnot

/-- **Where consent is safe, the order cannot matter.** -/
lemma ConsentSafe.unambiguous : Unambiguous profile.preferences where
  top _ _ ha hb hidentity := h.top ha hb hidentity
  user chosen hchosen hoverrides own hown own' hown' hlayer hlayer' hid hid' hdiffers := by
    have hdiffers' := h.differs hchosen hoverrides hown hlayer hid hdiffers hown' hlayer' hid'
    obtain ⟨e, rest, heq, -, huser⟩ := h.head_consent hchosen hoverrides hown hlayer hid hdiffers
    obtain ⟨f, rest', heq', -, huser'⟩ :=
      h.head_consent hchosen hoverrides hown' hlayer' hid' hdiffers'
    rw [← huser, ← huser', (List.cons.inj (heq.symm.trans heq')).1]
  once i j := by
    rintro ⟨chosen, own, hchosen, hoverrides, hown, hlayer, rfl, hid, hdiffers⟩
    rintro ⟨chosen', own', hchosen', hoverrides', hown', hlayer', rfl, hid', hdiffers'⟩
    obtain ⟨e, rest, heq, hname, -⟩ := h.head_consent hchosen hoverrides hown hlayer hid hdiffers
    obtain ⟨f, rest', heq', hname', -⟩ :=
      h.head_consent hchosen' hoverrides' hown' hlayer' hid' hdiffers'
    rw [← hname, ← hname', (List.cons.inj (heq.symm.trans heq')).1]

end

/-! ## An unambiguous profile is safe -/

lemma identities_perm (hperm : preferences'.Perm preferences) :
    ((selectedPreferences preferences').map Preference.identity).Perm
      ((selectedPreferences preferences).map Preference.identity) := by
  unfold selectedPreferences
  rw [List.perm_ext_iff_of_nodup keys_nodup keys_nodup]
  intro i
  rw [mem_keys_bestPerKey, mem_keys_bestPerKey]
  exact (hperm.map _).mem_iff

lemma needsConsent_perm (hperm : preferences'.Perm preferences) {identity : String × String} :
    NeedsConsent preferences' identity ↔ NeedsConsent preferences identity := by
  unfold NeedsConsent
  simp only [isTop_perm hperm, hperm.mem_iff]

lemma needsConsent_of_consentFor {e : ConsentItem} (ha : a ∈ selectedPreferences preferences)
    (he : consentFor preferences a = some e) :
    NeedsConsent preferences (e.nameSpace, e.key) := by
  obtain ⟨user, huser, hoverrides, hdiffers, rfl⟩ := consentFor_eq_some.mp he
  obtain ⟨hmem, hidentity, hlayer⟩ := userChoice_eq_some huser
  exact ⟨a, user, isTop_of_mem_selected ha, hoverrides, hmem, hlayer, rfl, hidentity, hdiffers⟩

section

variable (h : Unambiguous preferences)

include h

lemma Unambiguous.selected_same (hperm : preferences'.Perm preferences)
    (ha : a ∈ selectedPreferences preferences') (hb : b ∈ selectedPreferences preferences)
    (hkey : a.identity = b.identity) : a.document.canon = b.document.canon :=
  h.top a b ((isTop_perm hperm).mp (isTop_of_mem_selected ha)) (isTop_of_mem_selected hb) hkey

lemma Unambiguous.consentFor_of_own (hperm : preferences'.Perm preferences)
    (hchosen : chosen ∈ selectedPreferences preferences')
    (hoverrides : chosen.layer.overrides = true) (hown : own ∈ preferences')
    (hlayer : own.layer = .user) (hidentity : own.identity = chosen.identity)
    (hdiffers : chosen.value.same own.value = false) :
    consentFor preferences' chosen =
      some ⟨chosen.nameSpace, chosen.key, own.value, chosen.value, chosen.layer⟩ := by
  obtain ⟨user, huser⟩ := exists_userChoice hown hlayer
  obtain ⟨hmem, hid, hlayer'⟩ := userChoice_eq_some huser
  have htop := (isTop_perm hperm).mp (isTop_of_mem_selected hchosen)
  have hvalue := h.user chosen htop hoverrides own (hperm.mem_iff.mp hown) user
    (hperm.mem_iff.mp hmem) hlayer hlayer' hidentity (hid.trans hidentity) hdiffers
  rw [hidentity] at huser
  exact consentFor_eq_some.mpr ⟨user, huser, hoverrides, hvalue ▸ hdiffers, by rw [hvalue]⟩

lemma Unambiguous.consent_subset {orders orders' : List Preference}
    (hperm : orders.Perm preferences) (hperm' : orders'.Perm preferences) {e : ConsentItem}
    (he : e ∈ (selectedPreferences orders').filterMap (consentFor orders')) :
    e ∈ (selectedPreferences orders).filterMap (consentFor orders) := by
  obtain ⟨a, ha, hentry⟩ := List.mem_filterMap.mp he
  obtain ⟨user, huser, hoverrides, hdiffers, rfl⟩ := consentFor_eq_some.mp hentry
  obtain ⟨hmem, hidentity, hlayer⟩ := userChoice_eq_some huser
  obtain ⟨htop, hbest⟩ := isTop_of_mem_selected ha
  obtain ⟨b, hb, hkey⟩ : ∃ b ∈ selectedPreferences orders, b.identity = a.identity :=
    exists_mem_bestPerKey (hperm.mem_iff.mpr (hperm'.mem_iff.mp htop))
  have hsame := h.top b a ((isTop_perm hperm).mp (isTop_of_mem_selected hb))
    ((isTop_perm hperm').mp ⟨htop, hbest⟩) hkey
  obtain ⟨-, hlayer', hvalue⟩ := Preference.of_canon hsame
  have hentry' := h.consentFor_of_own hperm hb (hlayer' ▸ hoverrides)
    (hperm.mem_iff.mpr (hperm'.mem_iff.mp hmem)) hlayer (hidentity.trans hkey.symm)
    (hvalue ▸ hdiffers)
  refine List.mem_filterMap.mpr ⟨b, hb, hentry'.trans ?_⟩
  rw [hvalue, hlayer', (Prod.mk.inj hkey).1, (Prod.mk.inj hkey).2]

lemma Unambiguous.consent_le_one (hperm : preferences'.Perm preferences) :
    ((selectedPreferences preferences').filterMap (consentFor preferences')).length ≤ 1 := by
  have hdistinct : ((selectedPreferences preferences').filterMap (consentFor preferences')).Pairwise
      (· ≠ ·) := by
    have hkeys : (selectedPreferences preferences').Pairwise fun a b => a.identity ≠ b.identity :=
      List.pairwise_map.mp keys_nodup
    refine List.pairwise_filterMap.mpr (hkeys.imp fun hne e he f hf heq => hne ?_)
    obtain ⟨_, -, -, -, rfl⟩ := consentFor_eq_some.mp he
    obtain ⟨_, -, -, -, rfl⟩ := consentFor_eq_some.mp hf
    exact congrArg (fun e : ConsentItem => (e.nameSpace, e.key)) heq
  have hsame : ∀ e ∈ (selectedPreferences preferences').filterMap (consentFor preferences'),
      ∀ f ∈ (selectedPreferences preferences').filterMap (consentFor preferences'), e = f := by
    intro e he f hf
    obtain ⟨a, ha, hea⟩ := List.mem_filterMap.mp he
    obtain ⟨b, hb, hfb⟩ := List.mem_filterMap.mp hf
    exact consent_unique he hf (h.once _ _
      ((needsConsent_perm hperm).mp (needsConsent_of_consentFor ha hea))
      ((needsConsent_perm hperm).mp (needsConsent_of_consentFor hb hfb)))
  match hlist : (selectedPreferences preferences').filterMap (consentFor preferences') with
  | [] => exact Nat.zero_le 1
  | [_] => exact le_refl 1
  | e :: f :: rest =>
    rw [hlist] at hdistinct hsame
    have heq := hsame e List.mem_cons_self f (List.mem_cons_of_mem _ List.mem_cons_self)
    exact absurd heq ((List.pairwise_cons.mp hdistinct).1 f List.mem_cons_self)

lemma Unambiguous.consent_same (hperm : preferences'.Perm preferences) :
    (selectedPreferences preferences').filterMap (consentFor preferences') =
      (selectedPreferences preferences).filterMap (consentFor preferences) := by
  have hone := h.consent_le_one hperm
  have hone' := h.consent_le_one (List.Perm.refl preferences)
  have hforth : ∀ e ∈ (selectedPreferences preferences').filterMap (consentFor preferences'),
      e ∈ (selectedPreferences preferences).filterMap (consentFor preferences) :=
    fun e => h.consent_subset (List.Perm.refl _) hperm
  have hback : ∀ e ∈ (selectedPreferences preferences).filterMap (consentFor preferences),
      e ∈ (selectedPreferences preferences').filterMap (consentFor preferences') :=
    fun e => h.consent_subset hperm (List.Perm.refl _)
  revert hone hone' hforth hback
  generalize (selectedPreferences preferences').filterMap (consentFor preferences') = es
  generalize (selectedPreferences preferences).filterMap (consentFor preferences) = fs
  intro hone hone' hforth hback
  match es, fs with
  | [], [] => rfl
  | [], f :: fs => exact absurd (hback f List.mem_cons_self) List.not_mem_nil
  | e :: es, [] => exact absurd (hforth e List.mem_cons_self) List.not_mem_nil
  | [e], [f] => rw [List.mem_singleton.mp (hforth e List.mem_cons_self)]
  | _ :: _ :: _, _ :: _ =>
    simp only [List.length_cons] at hone
    omega
  | [_], _ :: _ :: _ =>
    simp only [List.length_cons] at hone'
    omega

omit h in
/-- **Where the order cannot matter, consent is safe.** -/
lemma Unambiguous.safe (h : Unambiguous profile.preferences) : ConsentSafe F sha256 profile := by
  intro preferences hperm
  refine ⟨?_, ?_⟩
  · rintro chosen hchosen hoverrides own ⟨hown, hlayer, -⟩ hidentity hdiffers
    have hselected : chosen ∈ selectedPreferences preferences := mem_sortOn.mp hchosen
    have hentry := h.consentFor_of_own hperm hselected hoverrides hown hlayer hidentity hdiffers
    have hmem := List.mem_filterMap.mpr ⟨chosen, hselected, hentry⟩
    refine ⟨?_, _, hmem, rfl, rfl, rfl, rfl⟩
    exact List.isEmpty_eq_false_iff_exists_mem.mpr ⟨_, hmem⟩
  · have hvalues : (project F sha256 { profile with preferences }).values.map
        (fun a => a.document.canon) =
          (project F sha256 profile).values.map fun a => a.document.canon := by
      refine map_sortOn_of_keys ?_ fun a ha b hb hkey => ?_
      · have hkeys := (identities_perm hperm).map (fun i : String × String => toLex i)
        rwa [List.map_map, List.map_map] at hkeys
      · exact h.selected_same hperm ha hb (toLex.injective hkey)
    have hconsent : (project F sha256 { profile with preferences }).consentRequired =
        (project F sha256 profile).consentRequired := h.consent_same hperm
    refine Projection.canon_of_parts rfl rfl (congrArg sha256 (dumps_of_canon ?_)) hvalues hconsent
    exact congrArg Value.list (canonItems_of_map hvalues)

end

end

/-- **Consent covers every override, in every order, exactly where the order cannot matter.** -/
theorem consent_covers_iff (F : FloatText) (sha256 : String → String) (profile : UserProfile) :
    ConsentSafe F sha256 profile ↔ Unambiguous profile.preferences :=
  ⟨ConsentSafe.unambiguous, Unambiguous.safe⟩

/-- A theme of the user, revised, and that of the venue. -/
def themePreferences : List Preference :=
  let theme (layer : Layer) (revision : Int) (value : String) : Preference :=
    ⟨"org.upp.display", "theme", layer, .token, revision, .str value, rfl, []⟩
  [theme .user 1 "light", theme .user 2 "dark", theme .venue 1 "light"]

theorem revised_theme_displaced : ¬ ∀ profile : UserProfile,
    ConsentSafe FloatText.fractions id profile := by
  intro h
  obtain ⟨hcovers, -⟩ := h ⟨"default", 0, themePreferences⟩ themePreferences (List.Perm.refl _)
  have hsafe := hcovers ⟨"org.upp.display", "theme", .venue, .token, 1, .str "light", rfl, []⟩
    (by decide) rfl ⟨"org.upp.display", "theme", .user, .token, 2, .str "dark", rfl, []⟩
    ⟨by decide, rfl, by decide⟩ rfl (by decide)
  exact absurd hsafe.1 (by decide)

end StageForge
