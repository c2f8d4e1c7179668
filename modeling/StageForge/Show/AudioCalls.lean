import StageForge.Show.PolicyCalls

/-!
# Patches of audio

`patch_audio` of `backend/state.py`: first the slots of the outputs and the inputs, one list element
after the other, then the single fields, which stand for slot 0. After each of the two lists the
single fields are set from slot 0.
-/

namespace StageForge

open Python Script

variable (P : Platform)

def audioFocus : Focus Audio where
  get c := c.audio
  set a c := { c with audio := a }
  get_set _ _ := rfl
  set_get := Content.eta

namespace Audio

def setOutput (audio : Audio) (slot : Fin 4) (output : AudioOutput) : Audio :=
  { audio with outputs := Function.update audio.outputs slot output }

def setInput (audio : Audio) (slot : Fin 4) (input : AudioInput) : Audio :=
  { audio with inputs := Function.update audio.inputs slot input }

/-- The single fields of the output as slot 0 has them. -/
def syncOutput (audio : Audio) : Audio := { audio with
    deviceId := orNullAudio (audio.outputs 0).deviceId
    limiterCeilingDb := (audio.outputs 0).limiterCeilingDb }

/-- The single fields of the input as slot 0 has them. -/
def syncInput (audio : Audio) : Audio := { audio with
    inputDeviceId := (audio.inputs 0).deviceId
    inputPlayerId := (audio.inputs 0).playerId
    inputRoute := (audio.inputs 0).route }

end Audio

/-! ## Slots -/

def deviceToken (message : String) (value : Value) : Except Error (Token 96) :=
  match token? 96 (P.str value) with
  | some device => .ok device
  | none => .error (.valueError message)

/-- The player that a value names: one of `players`, or none. -/
def knownPlayer (message : String) (players : List String) (value : Value) : Except Error String :=
  let playerId := clippedText P.toConversions 64 value
  if playerId ≠ "" ∧ playerId ∉ players then .error (.valueError message) else .ok playerId

/-- The output that an object makes of the one in its slot. -/
def patchedOutput (players : List String) (current : AudioOutput) (raw : Entries) :
    Except Error AudioOutput := do
  let deviceId ← deviceToken P "audio output device id must be an empty value or non-empty token"
    (raw.get "deviceId" (.str current.deviceId))
  let purpose ← match Purpose.ofText?
      (lower (strip (P.str (raw.get "purpose" (.str current.purpose.text))))) with
    | some purpose => pure purpose
    | none => throw (.valueError
        "audio output purpose must be one of ['aux', 'broadcast', 'foh', 'monitor', 'record']")
  let playerId ← knownPlayer P "audio output playerId must reference an existing player or be empty"
    players (raw.get "playerId" (.str current.playerId))
  let graphOutput ← P.intIn 0 15 le_output (raw.get "graphOutput" (.int current.graphOutput))
  let master ← P.floatIn 0 4 le_gain (raw.get "master" (floatValue current.master))
  let limiterCeilingDb ← P.floatIn (-24) 0 le_ceiling
    (raw.get "limiterCeilingDb" (floatValue current.limiterCeilingDb))
  let driftRaw : Entries ← match raw.get "driftCompensation" current.driftCompensation.toValue with
    | .dict entries => pure entries
    | _ => throw (.valueError "audio driftCompensation must be an object")
  let maxCorrectionPpm ← P.floatIn 0 10000 le_correction
    (driftRaw.get "maxCorrectionPpm" (floatValue current.driftCompensation.maxCorrectionPpm))
  let queueGainPpm ← P.floatIn 0 10000 le_correction
    (driftRaw.get "queueGainPpm" (floatValue current.driftCompensation.queueGainPpm))
  let enabled := (driftRaw.get "enabled" (.bool current.driftCompensation.enabled)).truthy
  let driftCompensation := { enabled, maxCorrectionPpm, queueGainPpm }
  return { deviceId, purpose, playerId, graphOutput, master, limiterCeilingDb, driftCompensation }

/-- One round of the loop over the incoming outputs. -/
def patchOutput (players : List String) (value : Value) : Item Error (Draft Audio) := fun d =>
  match value with
  | .dict raw => do
    let slot ← requiredSlot P.toConversions "audio output" raw
    let updated ← patchedOutput P players (d.value.outputs slot) raw
    return if updated = d.value.outputs slot then d
      else d.assign (d.value.setOutput slot updated) ("output slot " ++ toString slot.val)
  | _ => .error (.valueError "each audio output must be an object")

/-- The input that an object makes of the one in its slot. -/
def patchedInput (players : List String) (current : AudioInput) (raw : Entries) :
    Except Error AudioInput := do
  let deviceId ← deviceToken P "audio input device id must be an empty value or non-empty token"
    (raw.get "deviceId" (.str current.deviceId))
  let playerId ← knownPlayer P "audio input playerId must reference an existing player or be empty"
    players (raw.get "playerId" (.str current.playerId))
  let routeRaw : Entries ← match raw.get "route" current.route.toValue with
    | .dict entries => pure entries
    | _ => throw (.valueError "audio input route must be an object")
  let output ← P.intIn 0 15 le_output (routeRaw.get "output" (.int current.route.output))
  let gain ← P.floatIn 0 4 le_gain (routeRaw.get "gain" (floatValue current.route.gain))
  let sampleRate ← P.floatIn 8000 768000 le_sampleRate
    (raw.get "sampleRate" (floatValue current.sampleRate))
  return { deviceId, playerId, sampleRate, route := { output, gain } }

/-- One round of the loop over the incoming inputs. -/
def patchInput (players : List String) (value : Value) : Item Error (Draft Audio) := fun d =>
  match value with
  | .dict raw => do
    let slot ← requiredSlot P.toConversions "audio input" raw
    let updated ← patchedInput P players (d.value.inputs slot) raw
    return if updated = d.value.inputs slot then d
      else d.assign (d.value.setInput slot updated) ("input slot " ++ toString slot.val)
  | _ => .error (.valueError "each audio input must be an object")

def syncItem (sync : Audio → Audio) : Item Error (Draft Audio) := fun d =>
  .ok { d with value := sync d.value }

/-- The items for a list of slots: each element, then the single fields. -/
def slotItems (data : Entries) (key message : String) (each : Value → Item Error (Draft Audio))
    (sync : Audio → Audio) : List (Item Error (Draft Audio)) :=
  match data.lookup key with
  | none => []
  | some (.list raws) => raws.map each ++ [syncItem sync]
  | some _ => [fun _ => .error (.valueError message)]

/-! ## Single fields -/

/-- A text for the report of a change, if there is any text. -/
def textOrElse (text fallback : String) : String := if text = "" then fallback else text

def audioFieldItems (players : List String) (data : Entries) : List (Item Error (Draft Audio)) :=
  [onField data "deviceId" fun value d => do
      let device ← deviceToken P "audio device id must be a non-empty token" value
      if device.val = "" then throw (.valueError "audio device id must be a non-empty token")
      return if device = d.value.deviceId then d
        else d.assign ({ d.value with deviceId := device }.setOutput 0
            { d.value.outputs 0 with deviceId := device })
          ("device " ++ device.val),
    onField data "inputDeviceId" fun value d => do
      let device ← deviceToken P
        "audio input device id must be an empty value or non-empty token" value
      return if device = d.value.inputDeviceId then d
        else d.assign ({ d.value with inputDeviceId := device }.setInput 0
            { d.value.inputs 0 with deviceId := device })
          ("input device " ++ textOrElse device.val "none"),
    onField data "inputPlayerId" fun value d => do
      let playerId ← knownPlayer P
        "audio inputPlayerId must reference an existing player or be empty" players value
      return if playerId = d.value.inputPlayerId then d
        else d.assign ({ d.value with inputPlayerId := playerId }.setInput 0
            { d.value.inputs 0 with playerId })
          ("input player " ++ textOrElse playerId "unassigned"),
    onField data "inputRoute" fun value d =>
      match value with
      | .dict raw => do
        let output ← P.intIn 0 15 le_output
          (Entries.get raw "output" (.int d.value.inputRoute.output))
        let gain ← P.floatIn 0 4 le_gain
          (Entries.get raw "gain" (floatValue d.value.inputRoute.gain))
        let route : Route := { output, gain }
        return if route = d.value.inputRoute then d
          else d.assign
            ({ d.value with inputRoute := route }.setInput 0 { d.value.inputs 0 with route })
            ("input route source 24 -> output " ++ toString output.val ++ " gain " ++
              P.formatG gain)
      | _ => .error (.valueError "audio inputRoute must be an object"),
    onField data "sampleRate" fun value d => do
      let sampleRate ← P.floatIn 8000 768000 le_sampleRate value
      if sampleRate = d.value.sampleRate then return d
      -- Inputs that ran at the previous rate follow, unless the call sets the inputs itself.
      let follow := fun input : AudioInput =>
        if data.lookup "inputs" = none ∧ input.sampleRate = d.value.sampleRate then
          { input with sampleRate }
        else input
      return d.assign { d.value with sampleRate, inputs := fun slot => follow (d.value.inputs slot) }
        ("sample rate " ++ P.formatG sampleRate),
    onField data "bufferFrames" fun value d => do
      let bufferFrames ← P.intIn 16 8192 le_bufferFrames value
      return d.assignNew { d.value with bufferFrames } ("buffer " ++ toString bufferFrames.val),
    onField data "limiterCeilingDb" fun value d => do
      let ceiling ← P.floatIn (-24) 0 le_ceiling value
      return if ceiling = d.value.limiterCeilingDb then d
        else d.assign ({ d.value with limiterCeilingDb := ceiling }.setOutput 0
            { d.value.outputs 0 with limiterCeilingDb := ceiling })
          ("limiter " ++ P.formatG ceiling ++ " dBFS")]

def patchAudio (data : Entries) : Call where
  State := Audio
  key := .audio
  focus := audioFocus
  items c :=
    slotItems data "outputs" "audio outputs must be an array" (patchOutput P c.players.keys)
      Audio.syncOutput ++
    slotItems data "inputs" "audio inputs must be an array" (patchInput P c.players.keys)
      Audio.syncInput ++
    audioFieldItems P c.players.keys data
  touches := touchIfChanged .audio
  notice := changesNotice "audio" "Audio desired state updated: "

end StageForge
