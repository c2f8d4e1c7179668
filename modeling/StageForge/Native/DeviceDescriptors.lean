import StageForge.Library.Words

/-!
# Device descriptors over the engine protocol

The engine writes the audio devices that it found as lines of `key=value` tokens (`native/src/engine_main.cpp`);
`NativeEngineClient.scan_audio_devices` of `backend/native_engine.py` splits the lines and builds the devices that
`backend/audio_identity.py` identifies.
-/

namespace StageForge

open Python

/-- The backends of `AudioDeviceManager`. -/
inductive AudioBackend
  | null
  | alsa
  | wasapi
  | coreaudio
  deriving DecidableEq

def AudioBackend.text : AudioBackend → String
  | null => "null"
  | alsa => "alsa"
  | wasapi => "wasapi"
  | coreaudio => "coreaudio"

structure AudioEndpointDescriptor where
  id : String
  name : String
  backendAddress : String
  backend : AudioBackend
  input : Bool
  output : Bool
  connected : Bool
  deriving DecidableEq

/-- What the engine has of audio devices after a scan: the devices, and the ids that are selected. An output is
selected by its id in a command, which is one word. -/
structure AudioEngine where
  devices : List AudioEndpointDescriptor
  selectedAudioOutputs : List String
  selectedAudioInputs : List String
  selected_hasSpace : ∀ id ∈ selectedAudioOutputs, hasSpace id = false

/-! ## The engine -/

def tokenSafe (value : String) : String :=
  String.ofList (value.toList.map fun ch => if ch = ' ' ∨ ch = '\t' ∨ ch = '\n' ∨ ch = '\r' then '_' else ch)

def flag (b : Bool) : String := if b then "1" else "0"

/-- A line of the engine that begins with `OK`. -/
def okLine (fields : List (String × String)) : String :=
  String.ofList ("OK".toList ++ fields.flatMap (fun field => ' ' :: field.1.toList ++ '=' :: field.2.toList) ++ ['\n'])

/-- The line of `error`. -/
def errorLine (code message : String) : String := "ERR code=" ++ code ++ " message=" ++
    String.ofList (message.toList.map fun ch => if ch = ' ' then '_' else ch) ++ "\n"

namespace AudioEngine

/-- The reply to `AUDIO_SCAN`. -/
def audioScanReply (engine : AudioEngine) : String :=
  okLine [("count", Nat.repr engine.devices.length), ("selected", engine.selectedAudioOutputs.headD "")]

def deviceFields (engine : AudioEngine) (index : ℕ) (device : AudioEndpointDescriptor) : List (String × String) :=
  [("index", Nat.repr index), ("id", tokenSafe device.id), ("name", tokenSafe device.name),
    ("backend", tokenSafe device.backend.text), ("address", tokenSafe device.backendAddress),
    ("input", flag device.input), ("output", flag device.output), ("connected", flag device.connected),
    ("selected", flag (engine.selectedAudioOutputs.contains device.id)),
    ("inputSelected", flag (engine.selectedAudioInputs.contains device.id))]

/-- The reply to `AUDIO_DEVICE`. -/
def audioDeviceReply (engine : AudioEngine) (index : ℕ) : String :=
  match engine.devices[index]? with
  | none => errorLine "not_found" "unknown audio device index"
  | some device => okLine (engine.deviceFields index device)

end AudioEngine

/-! ## The client -/

inductive ResponseError
  | empty
  | invalid (line : String)
  | engine (code message : String)
  | notANumber (text : String)
  deriving DecidableEq

/-- `process.stdout.readline()`: what comes before the first line end, with `\n` for it. -/
def readline (text : String) : String :=
  String.ofList (text.toList.takeWhile (fun ch => ch ≠ '\n' ∧ ch ≠ '\r') ++ ['\n'])

/-- `text.replace("_", " ")`. -/
def replaceUnderscores (text : String) : String :=
  String.ofList (text.toList.map fun ch => if ch = '_' then ' ' else ch)

def parseResponse (line : String) : Except ResponseError (Bool × List (String × String)) :=
  match words (strip line).toList with
  | [] => .error .empty
  | status :: tokens =>
    if status = "OK".toList ∨ status = "ERR".toList then
      .ok (status = "OK".toList,
        (assignments tokens).map fun a => (a.1, if a.1 = "message" then replaceUnderscores a.2 else a.2))
    else .error (.invalid line)

/-- `values.get(key, default)`. -/
def getValue (values : List (String × String)) (key default : String) : String := (values.lookup key).getD default

/-- `request`, of a command to which the engine has written the reply. -/
def NativeEngineClient.request (reply : String) : Except ResponseError (List (String × String)) := do
  let (ok, values) ← parseResponse (readline reply)
  if ok then .ok values
  else .error (.engine (getValue values "code" "error") (getValue values "message" "native engine error"))

/-- `int(text)`, of digits. -/
def intOfDigits (text : String) : Except ResponseError ℕ :=
  if text.toList ≠ [] ∧ text.toList.all Char.isDigit then .ok (Nat.ofDigitChars 10 text.toList 0)
  else .error (.notANumber text)

/-- A device of `scan_audio_devices`. -/
structure ScannedDevice where
  index : ℕ
  id : String
  name : String
  backend : String
  address : String
  input : Bool
  output : Bool
  connected : Bool
  attached : Bool
  selected : Bool
  inputSelected : Bool
  deriving DecidableEq

/-- The device that the client builds from a reply. -/
def scannedDevice (index : ℕ) (raw : List (String × String)) : ScannedDevice where
  index
  id := getValue raw "id" ""
  name := replaceUnderscores (getValue raw "name" "")
  backend := getValue raw "backend" ""
  address := replaceUnderscores (getValue raw "address" "")
  input := raw.lookup "input" = some "1"
  output := raw.lookup "output" = some "1"
  connected := raw.lookup "connected" = some "1"
  attached := raw.lookup "attached" = some "1"
  selected := raw.lookup "selected" = some "1"
  inputSelected := raw.lookup "inputSelected" = some "1"

/-- The body of the loop of `scan_audio_devices`. -/
def scanDevice (engine : AudioEngine) (index : ℕ) : Except ResponseError ScannedDevice := do
  let raw ← NativeEngineClient.request (engine.audioDeviceReply index)
  return scannedDevice index raw

def scanAudioDevices (engine : AudioEngine) : Except ResponseError (List ScannedDevice) := do
  let result ← NativeEngineClient.request engine.audioScanReply
  let count ← intOfDigits (getValue result "count" "0")
  (List.range (min count 64)).mapM (scanDevice engine)

/-! ## The identity -/

/-- The text without a prefix, where it has it, in whatever case. -/
def dropOptional (start : String) (text : List Char) : List Char :=
  if (text.take start.length).map Char.toLower = start.toList then text.drop start.length else text

/-- `[A-Za-z0-9_-]`, which takes four more letters when case is ignored. -/
def isCardChar (ch : Char) : Bool := ch.isAlphanum || ch ∈ ['_', '-', 'İ', 'ı', 'ſ', 'K']

/-- The card and the number of the device, as the groups of
`re.fullmatch(r"(?:plug)?hw:(?:CARD=)?([A-Za-z0-9_-]+)(?:,(?:DEV=)?([0-9]+))?", address.strip(), re.I)`. -/
def alsaCard (address : String) : Option (String × String) :=
  let text := dropOptional "plug" (strip address).toList
  if (text.take 3).map Char.toLower ≠ "hw:".toList then none
  else
    let text := dropOptional "card=" (text.drop 3)
    let card := text.takeWhile isCardChar
    if card = [] then none
    else match text.dropWhile isCardChar with
      | [] => some (String.ofList card, "0")
      | ch :: rest =>
        let digits := dropOptional "dev=" rest
        if ch = ',' ∧ digits ≠ [] ∧ digits.all Char.isDigit then some (String.ofList card, String.ofList digits)
        else none

/-! ## What survives -/

/-- The id, the address and the flags of a device. -/
structure DeviceView where
  id : String
  address : String
  input : Bool
  output : Bool
  connected : Bool
  selected : Bool
  inputSelected : Bool

def AudioEngine.view (engine : AudioEngine) (device : AudioEndpointDescriptor) : DeviceView where
  id := device.id
  address := device.backendAddress
  input := device.input
  output := device.output
  connected := device.connected
  selected := engine.selectedAudioOutputs.contains device.id
  inputSelected := engine.selectedAudioInputs.contains device.id

def ScannedDevice.view (device : ScannedDevice) : DeviceView where
  id := device.id
  address := device.address
  input := device.input
  output := device.output
  connected := device.connected
  selected := device.selected
  inputSelected := device.inputSelected

/-- The devices come back as they are: with their ids, addresses and flags, with different addresses where the
native ones are different, and with the identities of their own addresses. -/
structure Survive (engine : AudioEngine) (scanned : List ScannedDevice) : Prop where
  views : scanned.map ScannedDevice.view = engine.devices.map engine.view
  distinct : ∀ (i j : ℕ) (d d' : AudioEndpointDescriptor) (s s' : ScannedDevice),
    engine.devices[i]? = some d → engine.devices[j]? = some d' → scanned[i]? = some s → scanned[j]? = some s' →
      d.backendAddress ≠ d'.backendAddress → s.address ≠ s'.address
  cards : scanned.map (fun s => alsaCard s.address) = engine.devices.map fun d => alsaCard d.backendAddress

def AudioEndpointDescriptor.nameIds (device : AudioEndpointDescriptor) : List String :=
  valuesOf "id" (words ("name".toList ++ '=' :: (tokenSafe device.name).toList))

variable {engine : AudioEngine} {device : AudioEndpointDescriptor} {fields : List (String × String)}
  {key name value text : String} {index : ℕ}

/-! ## One line -/

def OneLine (text : String) : Prop := ∀ ch ∈ text.toList, ch ≠ '\n' ∧ ch ≠ '\r'

lemma isSpace_of_hasSpace (h : hasSpace text = false) {ch : Char} (hch : ch ∈ text.toList) : isSpace ch = false := by
  simpa using List.any_eq_false.mp h ch hch

lemma oneLine_of_hasSpace (h : hasSpace text = false) : OneLine text := by
  intro ch hch
  have hspace := isSpace_of_hasSpace h hch
  constructor
  · rintro rfl
    exact absurd hspace (by decide)
  · rintro rfl
    exact absurd hspace (by decide)

lemma oneLine_tokenSafe (text : String) : OneLine (tokenSafe text) := by
  intro ch hch
  simp only [tokenSafe, String.toList_ofList, List.mem_map] at hch
  obtain ⟨ch', -, rfl⟩ := hch
  split_ifs with h
  · decide
  · simp only [not_or] at h
    exact ⟨h.2.2.1, h.2.2.2⟩

lemma tokenSafe_eq_self (h : hasSpace text = false) : tokenSafe text = text := by
  have hmap : text.toList.map (fun ch => if ch = ' ' ∨ ch = '\t' ∨ ch = '\n' ∨ ch = '\r' then '_' else ch) =
      text.toList := by
    conv_rhs => rw [← List.map_id text.toList]
    refine List.map_congr_left fun ch hch => if_neg fun hor => ?_
    have hspace := isSpace_of_hasSpace h hch
    rcases hor with rfl | rfl | rfl | rfl <;> exact absurd hspace (by decide)
  unfold tokenSafe
  rw [hmap, String.ofList_toList]

lemma hasSpace_flag (b : Bool) : hasSpace (flag b) = false := by
  cases b <;> decide

lemma hasSpace_repr (n : ℕ) : hasSpace (Nat.repr n) = false := by
  refine List.any_eq_false.mpr fun ch hch => ?_
  rw [Nat.toList_repr] at hch
  have hdigit := Nat.isDigit_of_mem_toDigits (by omega) (by omega) hch
  simp only [Char.isDigit, ge_iff_le, Bool.and_eq_true, decide_eq_true_eq, UInt32.le_iff_toNat_le] at hdigit
  have hlow : 48 ≤ ch.toNat := hdigit.1
  have hhigh : ch.toNat ≤ 57 := hdigit.2
  simp only [isSpace, List.mem_cons, List.not_mem_nil, or_false, decide_eq_true_eq]
  omega

lemma readline_okLine (h : ∀ field ∈ fields, OneLine field.1 ∧ OneLine field.2) :
    readline (okLine fields) = okLine fields := by
  have hbody : ∀ ch ∈ "OK".toList ++ fields.flatMap (fun field => ' ' :: field.1.toList ++ '=' :: field.2.toList),
      (decide (ch ≠ '\n' ∧ ch ≠ '\r')) = true := by
    intro ch hch
    rw [decide_eq_true_eq]
    rcases List.mem_append.mp hch with hok | hfield
    · have hletters : ∀ ch ∈ "OK".toList, ch ≠ '\n' ∧ ch ≠ '\r' := by simp
      exact hletters ch hok
    · obtain ⟨field, hmem, hch⟩ := List.mem_flatMap.mp hfield
      simp only [List.cons_append, List.mem_cons, List.mem_append] at hch
      rcases hch with rfl | hkey | rfl | hvalue
      · decide
      · exact (h field hmem).1 ch hkey
      · decide
      · exact (h field hmem).2 ch hvalue
  unfold readline okLine
  rw [String.toList_ofList, List.takeWhile_append_of_pos hbody]
  simp

/-! ## The values of a line -/

/-- The values that a key gets from one field of a line: of a value with white space every word counts. -/
def fieldValues (key : String) (field : String × String) : List String :=
  valuesOf key (words (field.1.toList ++ '=' :: field.2.toList))

lemma fieldValues_of_hasSpace (hname : hasSpace name = false) (hequals : '=' ∉ name.toList)
    (hvalue : hasSpace value = false) :
    fieldValues key (name, value) = if name = key then [value] else [] := by
  have hspace : ∀ ch ∈ name.toList ++ '=' :: value.toList, isSpace ch = false := by
    intro ch hch
    rcases List.mem_append.mp hch with h | h
    · exact isSpace_of_hasSpace hname h
    · rcases List.mem_cons.mp h with rfl | h
      · decide
      · exact isSpace_of_hasSpace hvalue h
  unfold fieldValues
  rw [words_eq_singleton hspace (by simp)]
  simp only [valuesOf, List.filterMap_cons, List.filterMap_nil, assignment_append name value hequals, Option.bind_some]
  split_ifs <;> rfl

lemma words_okLine (fields : List (String × String)) : words (okLine fields).toList =
      "OK".toList :: fields.flatMap fun field => words (field.1.toList ++ '=' :: field.2.toList) := by
  have hfields : ∀ before : List Char,
      words (before ++ fields.flatMap fun field => ' ' :: field.1.toList ++ '=' :: field.2.toList) =
        words before ++ fields.flatMap fun field => words (field.1.toList ++ '=' :: field.2.toList) := by
    induction fields with
    | nil => simp
    | cons field fields ih =>
      intro before
      rw [List.flatMap_cons, List.flatMap_cons, List.cons_append, List.cons_append,
        words_append_cons before _ (by decide), ih]
  have hok : words "OK".toList = ["OK".toList] := words_eq_singleton (by simp; decide) (by simp)
  have hend : ∀ ch ∈ ['\n'], isSpace ch = true := List.forall_mem_singleton.mpr (by decide)
  unfold okLine
  rw [String.toList_ofList, words_append_of_space hend, hfields, hok]
  rfl

lemma lookup_map_snd (g : String → String → String) (values : List (String × String)) :
    (values.map fun a => (a.1, g a.1 a.2)).lookup key = (values.lookup key).map (g key) := by
  induction values with
  | nil => rfl
  | cons a values ih =>
    obtain ⟨name, value⟩ := a
    rw [List.map_cons, List.lookup_cons, List.lookup_cons]
    by_cases h : key = name
    · subst h
      simp
    · simp [beq_false_of_ne h, ih]

lemma request_okLine (h : ∀ field ∈ fields, OneLine field.1 ∧ OneLine field.2) :
    ∃ values, NativeEngineClient.request (okLine fields) = .ok values ∧
      ∀ key ≠ "message", values.lookup key = (fields.flatMap (fieldValues key)).getLast? := by
  refine ⟨(assignments (fields.flatMap fun field => words (field.1.toList ++ '=' :: field.2.toList))).map
    fun a => (a.1, if a.1 = "message" then replaceUnderscores a.2 else a.2), ?_, ?_⟩
  · unfold NativeEngineClient.request parseResponse
    rw [readline_okLine h, words_strip, words_okLine]
    rfl
  · intro key hkey
    rw [lookup_map_snd (fun name value => if name = "message" then replaceUnderscores value else value),
      lookup_assignments]
    simp only [hkey, if_false, Option.map_id', valuesOf, List.filterMap_flatMap]
    rfl

/-! ## The devices -/

def lineKeys : List String :=
  ["count", "index", "id", "name", "backend", "address", "input", "output", "connected", "selected", "inputSelected"]

lemma plain_of_mem_lineKeys : ∀ name ∈ lineKeys, hasSpace name = false ∧ '=' ∉ name.toList := by
  decide +kernel

lemma fieldValues_of_mem_lineKeys (hname : name ∈ lineKeys) (hvalue : hasSpace value = false) :
    fieldValues key (name, value) = if name = key then [value] else [] := by
  obtain ⟨hspace, hequals⟩ := plain_of_mem_lineKeys name hname
  exact fieldValues_of_hasSpace hspace hequals hvalue

lemma oneLine_of_mem_lineKeys (hname : name ∈ lineKeys) : OneLine name :=
  oneLine_of_hasSpace (plain_of_mem_lineKeys name hname).1

lemma hasSpace_text (backend : AudioBackend) : hasSpace backend.text = false := by
  have htexts : ∀ text ∈ ["null", "alsa", "wasapi", "coreaudio"], hasSpace text = false := by decide +kernel
  cases backend <;> exact htexts _ (by simp [AudioBackend.text])

lemma oneLine_deviceFields (engine : AudioEngine) (index : ℕ) (device : AudioEndpointDescriptor) :
    ∀ field ∈ engine.deviceFields index device, OneLine field.1 ∧ OneLine field.2 := by
  have hkeys : ∀ field ∈ engine.deviceFields index device, field.1 ∈ lineKeys := by
    simp [AudioEngine.deviceFields, lineKeys]
  have hvalues : ∀ field ∈ engine.deviceFields index device, OneLine field.2 := by
    simp only [AudioEngine.deviceFields, List.forall_mem_cons]
    have hflag : ∀ b, OneLine (flag b) := fun b => oneLine_of_hasSpace (hasSpace_flag b)
    exact ⟨oneLine_of_hasSpace (hasSpace_repr index), oneLine_tokenSafe _, oneLine_tokenSafe _, oneLine_tokenSafe _,
      oneLine_tokenSafe _, hflag _, hflag _, hflag _, hflag _, hflag _, fun _ hnone => absurd hnone List.not_mem_nil⟩
  exact fun field hfield => ⟨oneLine_of_mem_lineKeys (hkeys field hfield), hvalues field hfield⟩

lemma fieldValues_deviceFields (hid : hasSpace device.id = false) (haddress : hasSpace device.backendAddress = false) :
    (engine.deviceFields index device).flatMap (fieldValues key) =
      (if "index" = key then [Nat.repr index] else []) ++ (if "id" = key then [device.id] else []) ++
        fieldValues key ("name", tokenSafe device.name) ++
        (if "backend" = key then [device.backend.text] else []) ++
        (if "address" = key then [device.backendAddress] else []) ++
        (if "input" = key then [flag device.input] else []) ++ (if "output" = key then [flag device.output] else []) ++
        (if "connected" = key then [flag device.connected] else []) ++
        (if "selected" = key then [flag (engine.selectedAudioOutputs.contains device.id)] else []) ++
        (if "inputSelected" = key then [flag (engine.selectedAudioInputs.contains device.id)] else []) := by
  have hplain : ∀ (name : String) {value : String}, name ∈ lineKeys → hasSpace value = false →
      fieldValues key (name, value) = if name = key then [value] else [] := fun _ _ => fieldValues_of_mem_lineKeys
  have hbackend := hasSpace_text device.backend
  simp only [AudioEngine.deviceFields, List.flatMap_cons, List.flatMap_nil, List.append_nil, tokenSafe_eq_self hid,
    tokenSafe_eq_self hbackend, tokenSafe_eq_self haddress,
    hplain "index" (by simp [lineKeys]) (hasSpace_repr index), hplain "id" (by simp [lineKeys]) hid,
    hplain "backend" (by simp [lineKeys]) hbackend, hplain "address" (by simp [lineKeys]) haddress,
    hplain "input" (by simp [lineKeys]) (hasSpace_flag _), hplain "output" (by simp [lineKeys]) (hasSpace_flag _),
    hplain "connected" (by simp [lineKeys]) (hasSpace_flag _), hplain "selected" (by simp [lineKeys]) (hasSpace_flag _),
    hplain "inputSelected" (by simp [lineKeys]) (hasSpace_flag _), List.append_assoc]

lemma flag_eq_one (b : Bool) : decide (some (flag b) = some "1") = b := by
  cases b <;> decide

/-- What comes back of a device: its address without underscores, and the last id that its name brings. -/
def AudioEngine.returned (engine : AudioEngine) (device : AudioEndpointDescriptor) : DeviceView :=
  { engine.view device with
    id := device.nameIds.getLast?.getD device.id
    address := replaceUnderscores device.backendAddress }

lemma scanDevice_eq (hid : hasSpace device.id = false) (haddress : hasSpace device.backendAddress = false)
    (hget : engine.devices[index]? = some device) :
    ∃ s, scanDevice engine index = .ok s ∧ s.view = engine.returned device := by
  obtain ⟨raw, hrequest, hlookup⟩ := request_okLine (oneLine_deviceFields engine index device)
  refine ⟨scannedDevice index raw, ?_, ?_⟩
  · unfold scanDevice AudioEngine.audioDeviceReply
    rw [hget]
    rw [hrequest]
    rfl
  have hvalue : ∀ key ≠ "message", raw.lookup key = _ := fun key hkey =>
    (hlookup key hkey).trans (congrArg List.getLast? (fieldValues_deviceFields hid haddress))
  have hlast : raw.lookup "id" = some (device.nameIds.getLast?.getD device.id) := by
    rw [hvalue "id" (by decide)]
    simp [List.getLast?_cons, AudioEndpointDescriptor.nameIds, fieldValues]
  have haddr : raw.lookup "address" = some device.backendAddress := by
    rw [hvalue "address" (by decide)]
    simp
  have hinput : raw.lookup "input" = some (flag device.input) := by
    rw [hvalue "input" (by decide)]
    simp
  have houtput : raw.lookup "output" = some (flag device.output) := by
    rw [hvalue "output" (by decide)]
    simp
  have hconnected : raw.lookup "connected" = some (flag device.connected) := by
    rw [hvalue "connected" (by decide)]
    simp
  have hselected : raw.lookup "selected" = some (flag (engine.selectedAudioOutputs.contains device.id)) := by
    rw [hvalue "selected" (by decide)]
    simp
  have hinputSelected : raw.lookup "inputSelected" = some (flag (engine.selectedAudioInputs.contains device.id)) := by
    rw [hvalue "inputSelected" (by decide)]
    simp
  simp only [scannedDevice, ScannedDevice.view, AudioEngine.returned, AudioEngine.view, getValue, hlast, haddr,
    hinput, houtput, hconnected, hselected, hinputSelected, flag_eq_one, Option.getD_some]

lemma intOfDigits_repr (n : ℕ) : intOfDigits (Nat.repr n) = .ok n := by
  unfold intOfDigits
  have hdigits : (Nat.toDigits 10 n).all Char.isDigit = true :=
    List.all_eq_true.mpr fun ch hch => Nat.isDigit_of_mem_toDigits (by omega) (by omega) hch
  rw [Nat.toList_repr, if_pos ⟨Nat.toDigits_ne_nil, hdigits⟩, Nat.ofDigitChars_ten_toDigits]

lemma count_of_reply (engine : AudioEngine) :
    ∃ result, NativeEngineClient.request engine.audioScanReply = .ok result ∧
      intOfDigits (getValue result "count" "0") = .ok engine.devices.length := by
  have hselected : hasSpace (engine.selectedAudioOutputs.headD "") = false := by
    cases hlist : engine.selectedAudioOutputs with
    | nil => decide
    | cons id rest => exact engine.selected_hasSpace id (by simp [hlist])
  have hcount := hasSpace_repr engine.devices.length
  have hlines : ∀ field ∈ [("count", Nat.repr engine.devices.length),
      ("selected", engine.selectedAudioOutputs.headD "")], OneLine field.1 ∧ OneLine field.2 := by
    rw [List.forall_mem_cons, List.forall_mem_singleton]
    exact ⟨⟨oneLine_of_mem_lineKeys (by simp [lineKeys]), oneLine_of_hasSpace hcount⟩,
      oneLine_of_mem_lineKeys (by simp [lineKeys]), oneLine_of_hasSpace hselected⟩
  obtain ⟨result, hrequest, hlookup⟩ := request_okLine hlines
  refine ⟨result, hrequest, ?_⟩
  have hvalue : result.lookup "count" = some (Nat.repr engine.devices.length) := by
    rw [hlookup "count" (by decide), List.flatMap_cons, List.flatMap_cons,
      fieldValues_of_mem_lineKeys (by simp [lineKeys]) hcount,
      fieldValues_of_mem_lineKeys (by simp [lineKeys]) hselected]
    simp
  unfold getValue
  rw [hvalue]
  exact intOfDigits_repr _

lemma exists_mapM_map_eq {ε α β γ : Type} {f : α → Except ε β} {g : β → γ} {h : α → γ} {items : List α}
    (hf : ∀ a ∈ items, ∃ b, f a = .ok b ∧ g b = h a) :
    ∃ results, items.mapM f = .ok results ∧ results.map g = items.map h := by
  induction items with
  | nil => exact ⟨[], rfl, rfl⟩
  | cons a items ih =>
    obtain ⟨⟨b, hb, hgb⟩, hrest⟩ := List.forall_mem_cons.mp hf
    obtain ⟨results, hresults, hmap⟩ := ih hrest
    refine ⟨b :: results, ?_, ?_⟩
    · rw [List.mapM_cons, hb, hresults]
      rfl
    · rw [List.map_cons, List.map_cons, hgb, hmap]

lemma map_getElem?_range {α β : Type} (f : α → β) (items : List α) :
    (List.range items.length).map (fun i => items[i]?.map f) = items.map fun a => some (f a) := by
  refine List.ext_getElem? fun i => ?_
  rw [List.getElem?_map, List.getElem?_map]
  rcases Nat.lt_or_ge i items.length with hlt | hge
  · rw [List.getElem?_range hlt]
    simp [List.getElem?_eq_getElem hlt]
  · rw [List.getElem?_eq_none (by simpa using hge), List.getElem?_eq_none hge]
    rfl

lemma views_of_scan (hcount : engine.devices.length ≤ 64)
    (hwords : ∀ d ∈ engine.devices, hasSpace d.id = false ∧ hasSpace d.backendAddress = false) :
    ∃ scanned, scanAudioDevices engine = .ok scanned ∧
      scanned.map ScannedDevice.view = engine.devices.map engine.returned := by
  obtain ⟨result, hresult, hint⟩ := count_of_reply engine
  have hdevice : ∀ index ∈ List.range engine.devices.length,
      ∃ s, scanDevice engine index = .ok s ∧ some s.view = engine.devices[index]?.map engine.returned := by
    intro index hindex
    have hlt : index < engine.devices.length := List.mem_range.mp hindex
    have hget : engine.devices[index]? = some engine.devices[index] := List.getElem?_eq_getElem hlt
    obtain ⟨hid, haddress⟩ := hwords _ (List.getElem_mem hlt)
    obtain ⟨s, hscan, hview⟩ := scanDevice_eq hid haddress hget
    refine ⟨s, hscan, ?_⟩
    rw [hget, hview]
    rfl
  obtain ⟨scanned, hscanned, hmap⟩ := exists_mapM_map_eq hdevice
  rw [map_getElem?_range] at hmap
  refine ⟨scanned, ?_, ?_⟩
  · unfold scanAudioDevices
    rw [hresult]
    simp only [bind, Except.bind, hint, min_eq_left hcount]
    exact hscanned
  · refine List.map_injective_iff.mpr (Option.some_injective _) ?_
    rw [List.map_map, List.map_map]
    exact hmap

lemma replaceUnderscores_eq_self_iff : replaceUnderscores text = text ↔ '_' ∉ text.toList := by
  unfold replaceUnderscores
  rw [← String.toList_inj, String.toList_ofList]
  constructor
  · intro h hmem
    obtain ⟨i, hi, hget⟩ := List.getElem_of_mem hmem
    have hat := congrArg (fun cs => cs[i]?) h
    simp [List.getElem?_eq_getElem hi, hget] at hat
  · intro h
    conv_rhs => rw [← List.map_id text.toList]
    exact List.map_congr_left fun ch hch => if_neg (ne_of_mem_of_not_mem hch h)

lemma replaceUnderscores_inj {text' : String} (h : hasSpace text = false) (h' : hasSpace text' = false)
    (heq : replaceUnderscores text = replaceUnderscores text') : text = text' := by
  unfold replaceUnderscores at heq
  rw [String.ofList_inj] at heq
  rw [← String.toList_inj, ← List.map_id text.toList, ← List.map_id text'.toList]
  refine map_eq_of_keys heq fun a ha b hb hab => ?_
  have ha' : a ≠ ' ' := by
    rintro rfl
    exact absurd (isSpace_of_hasSpace h ha) (by decide)
  have hb' : b ≠ ' ' := by
    rintro rfl
    exact absurd (isSpace_of_hasSpace h' hb) (by decide)
  by_cases hunder : a = '_'
  · subst hunder
    by_cases hunder' : b = '_'
    · exact hunder'.symm
    · simp [hunder', hb'.symm] at hab
  · by_cases hunder' : b = '_'
    · simp [hunder, hunder', ha'] at hab
    · simpa [hunder, hunder'] using hab

lemma addresses_distinct {scanned : List ScannedDevice}
    (hwords : ∀ d ∈ engine.devices, hasSpace d.id = false ∧ hasSpace d.backendAddress = false)
    (hviews : scanned.map ScannedDevice.view = engine.devices.map engine.returned)
    {i j : ℕ} {d d' : AudioEndpointDescriptor} {s s' : ScannedDevice}
    (hd : engine.devices[i]? = some d) (hd' : engine.devices[j]? = some d') (hs : scanned[i]? = some s)
    (hs' : scanned[j]? = some s') (hne : d.backendAddress ≠ d'.backendAddress) : s.address ≠ s'.address := by
  have haddress : ∀ {k : ℕ} {d : AudioEndpointDescriptor} {s : ScannedDevice},
      engine.devices[k]? = some d → scanned[k]? = some s → s.address = replaceUnderscores d.backendAddress := by
    intro k d s hd hs
    have hk := congrArg (fun views => views[k]?) hviews
    simp only [List.getElem?_map, hd, hs, Option.map_some, Option.some_inj] at hk
    exact congrArg DeviceView.address hk
  rw [haddress hd hs, haddress hd' hs']
  exact fun heq => hne (replaceUnderscores_inj (hwords d (List.mem_of_getElem? hd)).2
    (hwords d' (List.mem_of_getElem? hd')).2 heq)

lemma survive_of_views {scanned : List ScannedDevice}
    (hwords : ∀ d ∈ engine.devices, hasSpace d.id = false ∧ hasSpace d.backendAddress = false)
    (hreturned : scanned.map ScannedDevice.view = engine.devices.map engine.returned)
    (hviews : scanned.map ScannedDevice.view = engine.devices.map engine.view) : Survive engine scanned where
  views := hviews
  distinct _ _ _ _ _ _ hd hd' hs hs' hne := addresses_distinct hwords hreturned hd hd' hs hs' hne
  cards := by
    -- What is said of the cards holds of whatever depends on the address alone.
    have hof : ∀ card : String → Option (String × String),
        scanned.map (fun s => card s.address) = engine.devices.map fun d => card d.backendAddress := by
      intro card
      have hmap := congrArg (List.map fun v : DeviceView => card v.address) hviews
      rw [List.map_map, List.map_map] at hmap
      exact hmap
    exact hof alsaCard

def oneDevice (device : AudioEndpointDescriptor) : AudioEngine :=
  ⟨[device], [], [], fun _ h => absurd h List.not_mem_nil⟩

/-- The identity of what comes back is taken of the card `Stage`. -/
example : alsaCard "hw:CARD=Stage_" = some ("Stage_", "0") ∧
    alsaCard (replaceUnderscores "hw:CARD=Stage_") = some ("Stage", "0") := by
  decide +kernel

/-- A no-break space in a name is white space to the client alone, and what is behind it is a field of its own. -/
example : (⟨"alsa-1", "Stage\u00a0id=alsa-2", "hw:0", .alsa, true, true, true⟩ : AudioEndpointDescriptor).nameIds =
    ["alsa-2"] := by
  decide +kernel

end StageForge
