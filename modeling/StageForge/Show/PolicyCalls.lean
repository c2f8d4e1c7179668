import StageForge.Show.Calls

/-!
# Patches of handoff and technology

`patch_handoff` and `patch_technology` of `backend/state.py`. Both lay what comes in over what there
is, normalise the result and report a change if it differs.
-/

namespace StageForge

open Python Script

/-- The slot that an object names; `noun` says in the message whose slot it is. -/
def requiredSlot (C : Conversions) (noun : String) (raw : Entries) : Except Error (Fin 4) := do
  let n ← orRaise (noun ++ " slot must be an integer") (C.int (raw.get "slot" (.int (-1))))
  match slotOf n with
  | some slot => return slot
  | none => throw (.valueError (noun ++ " slot must be 0..3"))

variable (P : Platform)

/-! ## Handoff -/

def handoffFocus : Focus Handoff where
  get c := c.handoff
  set a c := { c with handoff := a }
  get_set _ _ := rfl
  set_get := Content.eta

/-- One round of the loop over the incoming live inputs. -/
def mergeLiveInput (merged : Fin 4 → Entries) : Value → Except Error (Fin 4 → Entries)
  | .dict raw => do
    let slot ← requiredSlot P.toConversions "handoff live input" raw
    return Function.update merged slot (setItem "slot" (.int slot.val) (update (merged slot) raw))
  | _ => .error (.valueError "each handoff live input must be an object")

def patchHandoff (data : Entries) : Call where
  State := Handoff
  key := .handoff
  focus := handoffFocus
  items _ := [onField data "policy" fun value d =>
        match value with
        | .dict raw => do
          let policy ← normalizePolicy P.toConversions (.dict (update d.value.policy.toEntries raw))
          return d.assignNew { d.value with policy } "policy"
        | _ => .error (.valueError "handoff policy must be an object"),
      onField data "liveInputs" fun value d =>
        match value with
        | .list raws => do
          let merged ← raws.foldlM (mergeLiveInput P)
            fun slot => (d.value.liveInputs slot).toEntries slot
          let liveInputs ← normalizeLiveInputs P.toConversions
            (.list ((List.finRange 4).map fun slot => .dict (merged slot)))
          return d.assignNew { d.value with liveInputs } "live-input redundancy"
        | _ => .error (.valueError "handoff liveInputs must be an array"),
      onField data "deterministicSources" fun value d =>
        match value with
        | .list raws =>
          .ok (d.assignNew { d.value with
            deterministicSources := normalizeDeterministicSources P.toConversions (.list raws) }
            "deterministic sources")
        | _ => .error (.valueError "handoff deterministicSources must be an array")]
  touches := touchIfChanged .handoff
  notice := changesNotice "handoff" "Updated "

/-! ## Technology -/

def technologyFocus : Focus Technology where
  get c := c.technology
  set a c := { c with technology := a }
  get_set _ _ := rfl
  set_get := Content.eta

/-- `v == w` where parts of `w` may be the objects in `v` themselves, which are equal whatever they
contain. -/
def sameValue (v w : Value) : Bool := decide (v = w) || v.same w

def extensionsValue (extensions : List Entries) : Value := .list (extensions.map .dict)

/-- `item["id"]` of an extension. -/
def extensionId (C : Conversions) (item : Entries) : String := C.str (item.get "id" (.str ""))

/-- The dependencies of an extension and of what is laid over it, if both are objects. -/
def mergeDependencies (existing raw merged : Entries) : Entries :=
  match existing.lookup "dependencies", raw.lookup "dependencies" with
  | some (.dict old), some (.dict new) => setItem "dependencies" (.dict (update old new)) merged
  | _, _ => merged

/-- One round of the loop over the incoming extensions. -/
def mergeExtension (byId : Entries) : Value → Except Error Entries
  | .dict raw =>
    let id := clippedText P.toConversions 160 (Entries.get raw "id" (.str ""))
    if id = "" then .error (.valueError "technology extension id required")
    else
      let existing : Entries := (byId.get id .none).entries
      let merged := mergeDependencies existing raw (setItem "id" (.str id) (update existing raw))
      .ok (setItem id (.dict merged) byId)
  | _ => .error (.valueError "each technology extension must be an object")

def patchTechnology (data : Entries) : Call where
  State := Technology
  key := .technology
  focus := technologyFocus
  items _ := [onField data "policy" fun value d =>
        match value with
        | .dict raw => do
          let policy ← normalizeTechnologyPolicy P.toConversions (.dict (update d.value.policy raw))
          return if sameValue (.dict policy) (.dict d.value.policy) then d
            else d.assign { d.value with policy } "openness policy"
        | _ => .error (.valueError "technology policy must be an object"),
      onField data "ecosystemParticipants" fun value d => do
        let ecosystemParticipants ← orRaise "technology ecosystemParticipants must be an integer"
          (P.intIn 1 1000000 le_participants value)
        return d.assignNew { d.value with ecosystemParticipants }
          ("ecosystem participants " ++ toString ecosystemParticipants.val),
      onField data "extensions" fun value d =>
        match value with
        | .list raws => do
          let current := d.value.extensions.foldl
            (fun byId item => setItem (extensionId P.toConversions item) (.dict item) byId) []
          let byId ← raws.foldlM (mergeExtension P) current
          let extensions ← normalizeTechnologyExtensions P.toConversions (.list (byId.map Prod.snd))
          return if sameValue (extensionsValue extensions) (extensionsValue d.value.extensions)
            then d else d.assign { d.value with extensions } "technology registry"
        | _ => .error (.valueError "technology extensions must be an array"),
      onField data "removeExtensionIds" fun value d =>
        match value with
        | .list ids =>
          let removed := (ids.filter fun id => strip (P.str id) ≠ "").map
            (clippedText P.toConversions 160)
          let isRemoved := fun item => decide (extensionId P.toConversions item ∈ removed)
          let isProtected := fun item : Entries =>
            decide (item.get "maturity" .none = .str "standard") ||
              (item.get "mandatoryCore" .none).truthy
          let kept := d.value.extensions.filter fun item => !isRemoved item
          match d.value.extensions.filter fun item => isRemoved item && isProtected item with
          | [] =>
            .ok (if kept = d.value.extensions then d
              else d.assign { d.value with extensions := kept } "technology registry removals")
          | blocked => .error (.valueError ("standard/core technology cannot be deleted; " ++
              "deprecate or supersede it instead: " ++
              ", ".intercalate (blocked.map (extensionId P.toConversions))))
        | _ => .error (.valueError "removeExtensionIds must be an array")]
  touches := touchIfChanged .technology
  notice := changesNotice "technology" "Updated "
  extensions := true

end StageForge
