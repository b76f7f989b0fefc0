import PassThru.Library

/-!
# Resolving a vendor library

A library is resolved by the names that it exports. Seventeen of them it must export; without the
two for logical channels it is resolved all the same.

* `requiredNames` and `Call.functionName`: the names of the interface, written down for themselves.
* `NativeLibrary.driver_eq`: a call goes to the function that is kept for its entry point.
* `Library.looksUp_resolve`: that function is the one of the entry point's name.
* `Library.exists_resolve_iff` and `Library.resolve_eq_error_iff`: which libraries are resolved, and
  which name is reported of those that are not.
* `Library.recording`: a library that keeps a list of the functions that were called, by name.
* `library_resolves`: all of it, with what the resolved library does.
-/

namespace PassThru

variable {w : Width} {σ : Type}

/-! ## Names of the interface -/

/-- The names that a library has to export, in the order in which they are looked up. -/
def requiredNames : List String :=
  ["PassThruScanForDevices", "PassThruGetNextDevice", "PassThruOpen", "PassThruClose",
    "PassThruConnect", "PassThruDisconnect", "PassThruSelect", "PassThruReadMsgs",
    "PassThruQueueMsgs", "PassThruStartPeriodicMsg", "PassThruStopPeriodicMsg",
    "PassThruStartMsgFilter", "PassThruStopMsgFilter", "PassThruSetProgrammingVoltage",
    "PassThruReadVersion", "PassThruGetLastError", "PassThruIoctl"]

/-- The two names that a library without logical channels does not export. -/
def logicalNames : List String := ["PassThruLogicalConnect", "PassThruLogicalDisconnect"]

/-- The name of the function that a call is meant for. -/
def Call.functionName : Call w → String
  | scanForDevices .. => "PassThruScanForDevices"
  | getNextDevice .. => "PassThruGetNextDevice"
  | openDevice .. => "PassThruOpen"
  | closeDevice .. => "PassThruClose"
  | connect .. => "PassThruConnect"
  | disconnect .. => "PassThruDisconnect"
  | logicalConnect .. => "PassThruLogicalConnect"
  | logicalDisconnect .. => "PassThruLogicalDisconnect"
  | select .. => "PassThruSelect"
  | readMsgs .. => "PassThruReadMsgs"
  | queueMsgs .. => "PassThruQueueMsgs"
  | startPeriodicMsg .. => "PassThruStartPeriodicMsg"
  | stopPeriodicMsg .. => "PassThruStopPeriodicMsg"
  | startMsgFilter .. => "PassThruStartMsgFilter"
  | stopMsgFilter .. => "PassThruStopMsgFilter"
  | setProgrammingVoltage .. => "PassThruSetProgrammingVoltage"
  | readVersion .. => "PassThruReadVersion"
  | getLastError .. => "PassThruGetLastError"
  | ioctl .. => "PassThruIoctl"

theorem Call.symbol_entry (call : Call w) : call.entry.symbol = call.functionName := by
  cases call <;> rfl

namespace EntryPoint

/-- The entry points that a library has to export, in the order of resolution. -/
def required : List EntryPoint :=
  [scanForDevices, getNextDevice, openDevice, closeDevice, connect, disconnect, select, readMsgs,
    queueMsgs, startPeriodicMsg, stopPeriodicMsg, startMsgFilter, stopMsgFilter,
    setProgrammingVoltage, readVersion, getLastError, ioctl]

theorem map_symbol_required : required.map symbol = requiredNames := rfl

theorem mem_all (entry : EntryPoint) : entry ∈ all := by
  cases entry <;> decide

theorem symbol_injective {a b : EntryPoint} (h : a.symbol = b.symbol) : a = b := by
  have hdistinct : ∀ a ∈ all, ∀ b ∈ all, a.symbol = b.symbol → a = b := by decide
  exact hdistinct a (mem_all a) b (mem_all b) h

theorem symbol_mem_names (entry : EntryPoint) :
    entry.symbol ∈ requiredNames ∨ entry.symbol ∈ logicalNames := by
  cases entry <;> decide

end EntryPoint

/-! ## Functions of a resolved library -/

/-- The function of an entry point. -/
def NativeLibrary.function? (native : NativeLibrary w σ) : EntryPoint → Option (Driver w σ)
  | .scanForDevices => some native.scanForDevices
  | .getNextDevice => some native.getNextDevice
  | .openDevice => some native.openDevice
  | .closeDevice => some native.closeDevice
  | .connect => some native.connect
  | .disconnect => some native.disconnect
  | .logicalConnect => native.logicalConnect?
  | .logicalDisconnect => native.logicalDisconnect?
  | .select => some native.select
  | .readMsgs => some native.readMsgs
  | .queueMsgs => some native.queueMsgs
  | .startPeriodicMsg => some native.startPeriodicMsg
  | .stopPeriodicMsg => some native.stopPeriodicMsg
  | .startMsgFilter => some native.startMsgFilter
  | .stopMsgFilter => some native.stopMsgFilter
  | .setProgrammingVoltage => some native.setProgrammingVoltage
  | .readVersion => some native.readVersion
  | .getLastError => some native.getLastError
  | .ioctl => some native.ioctl

theorem NativeLibrary.driver_eq (native : NativeLibrary w σ) (call : Call w) :
    native.driver call =
      match native.function? call.entry with
      | some function => function call
      | none => fun state => (.untouched call ErrorCode.notSupported.asStatus, state) := by
  cases call <;> rfl

/-! ## Resolution -/

namespace Library

variable {lib : Library w σ} {native : NativeLibrary w σ} {entry : EntryPoint} {call : Call w}
  {α : Type} {P : α → Prop} {answer : Answer α} {e : Error}

/-- Whether a library exports a function under a name. -/
def Exports (lib : Library w σ) (name : String) : Prop := (lib.symbol? name).isSome = true

/-- A required name is the first one that a library does not export. -/
def FirstMissing (lib : Library w σ) (name : String) : Prop :=
  ∃ before after, requiredNames = before ++ name :: after ∧
    (∀ earlier ∈ before, lib.Exports earlier) ∧ ¬ lib.Exports name

/-- Whether a library lacks a function. -/
def lacks (lib : Library w σ) (name : String) : Bool := (lib.symbol? name).isNone

theorem lacks_eq_true_iff {name : String} : lib.lacks name = true ↔ ¬ lib.Exports name := by
  simp [lacks, Exports]

theorem lacks_eq_false_iff {name : String} : lib.lacks name = false ↔ lib.Exports name := by
  simp [lacks, Exports, Option.isSome_iff_ne_none]

theorem firstMissing_iff {name : String} :
    lib.FirstMissing name ↔ requiredNames.find? lib.lacks = some name := by
  simp only [List.find?_eq_some_iff_append, lacks_eq_true_iff, Bool.not_eq_true',
    lacks_eq_false_iff]
  constructor
  · rintro ⟨before, after, hsplit, hbefore, hmissing⟩
    exact ⟨hmissing, before, after, hsplit, hbefore⟩
  · rintro ⟨hmissing, before, after, hsplit, hbefore⟩
    exact ⟨before, after, hsplit, hbefore, hmissing⟩

theorem find?_lacks_eq_none_iff :
    requiredNames.find? lib.lacks = none ↔ ∀ name ∈ requiredNames, lib.Exports name := by
  simp only [List.find?_eq_none, Bool.not_eq_true, lacks_eq_false_iff]

/-- Entry points are looked up one after the other, and of what is made of their functions `P`
holds. -/
inductive LooksUp (lib : Library w σ) (P : α → Prop) : List EntryPoint → Answer α → Prop where
  | done {a : α} (h : P a) : LooksUp lib P [] (.ok a)
  | symbol {entry : EntryPoint} {rest : List EntryPoint} {next : Driver w σ → Answer α}
      (h : ∀ function, lib.symbol? entry.symbol = some function →
        LooksUp lib P rest (next function)) :
    LooksUp lib P (entry :: rest) (lib.symbol entry >>= next)

/-- The first entry point that is missing is the answer. -/
theorem LooksUp.cases {entries : List EntryPoint} {answer : Answer α}
    (h : lib.LooksUp P entries answer) :
    (∃ entry, (entries.map EntryPoint.symbol).find? lib.lacks = some entry.symbol ∧
      answer = .error (.missingSymbol entry)) ∨
    (entries.map EntryPoint.symbol).find? lib.lacks = none ∧ ∃ a, P a ∧ answer = .ok a := by
  induction h with
  | done h => exact .inr ⟨rfl, _, h, rfl⟩
  | @symbol entry rest next _ ih =>
    rw [List.map_cons]
    unfold Library.symbol
    cases hentry : lib.symbol? entry.symbol with
    | none =>
      have hlacks : lib.lacks entry.symbol = true := congrArg Option.isNone hentry
      exact .inl ⟨entry, List.find?_cons_of_pos hlacks, rfl⟩
    | some function =>
      have hlacks : lib.lacks entry.symbol = false := congrArg Option.isNone hentry
      rw [List.find?_cons_of_neg (by simp [hlacks])]
      exact ih function hentry

theorem optionalSymbol_eq (lib : Library w σ) (entry : EntryPoint) :
    lib.optionalSymbol entry = lib.symbol? entry.symbol := by
  unfold optionalSymbol Library.symbol
  cases lib.symbol? entry.symbol <;> rfl

/-- The functions are looked up by the names of their entry points, the required ones in order. -/
theorem looksUp_resolve (lib : Library w σ) :
    lib.LooksUp (fun native : NativeLibrary w σ =>
      ∀ entry, native.function? entry = lib.symbol? entry.symbol)
      EntryPoint.required lib.resolve := by
  unfold resolve EntryPoint.required
  repeat refine .symbol fun _ _ => ?_
  refine .done fun entry => ?_
  cases entry with
  | logicalConnect | logicalDisconnect => exact lib.optionalSymbol_eq _
  | _ => symm; assumption

theorem resolve_eq_error_iff {e : Error} :
    lib.resolve = .error e ↔ ∃ entry, lib.FirstMissing entry.symbol ∧ e = .missingSymbol entry := by
  simp only [firstMissing_iff]
  obtain ⟨entry, hmissing, hresolve⟩ | ⟨hnone, native, -, hresolve⟩ := lib.looksUp_resolve.cases
  · rw [EntryPoint.map_symbol_required] at hmissing
    rw [hresolve]
    constructor
    · rintro ⟨⟩
      exact ⟨entry, hmissing, rfl⟩
    · rintro ⟨other, hother, rfl⟩
      rw [EntryPoint.symbol_injective (Option.some.inj (hmissing.symm.trans hother))]
  · rw [EntryPoint.map_symbol_required] at hnone
    simp [hresolve, hnone]

theorem exists_resolve_iff :
    (∃ native, lib.resolve = .ok native) ↔ ∀ name ∈ requiredNames, lib.Exports name := by
  rw [← find?_lacks_eq_none_iff]
  obtain ⟨entry, hmissing, hresolve⟩ | ⟨hnone, native, -, hresolve⟩ := lib.looksUp_resolve.cases
  · rw [EntryPoint.map_symbol_required] at hmissing
    simp [hresolve, hmissing]
  · exact iff_of_true ⟨native, hresolve⟩ hnone

theorem function?_of_resolve (h : lib.resolve = .ok native) (entry : EntryPoint) :
    native.function? entry = lib.symbol? entry.symbol := by
  obtain ⟨_, -, hresolve⟩ | ⟨-, found, hfound, hresolve⟩ := lib.looksUp_resolve.cases
  · cases h.symm.trans hresolve
  · obtain rfl := Except.ok.inj (h.symm.trans hresolve)
    exact hfound entry

/-! ## Calls -/

theorem driver_of_symbol {function : Driver w σ} (hnative : lib.resolve = .ok native)
    (h : lib.symbol? call.functionName = some function) : native.driver call = function call := by
  rw [native.driver_eq, function?_of_resolve hnative, call.symbol_entry, h]

theorem driver_of_not_exports (hnative : lib.resolve = .ok native)
    (h : ¬ lib.Exports call.functionName) (state : σ) :
    native.driver call state = (.untouched call ErrorCode.notSupported.asStatus, state) := by
  rw [native.driver_eq, function?_of_resolve hnative, call.symbol_entry,
    Option.not_isSome_iff_eq_none.1 h]

/-- A function that adds its name, and the call that it was given, to a list. -/
def recorded (name : String) (function : Driver w σ) : Driver w (σ × List (String × Call w)) :=
  fun call (state, calls) =>
    ((function call state).1, (function call state).2, calls ++ [(name, call)])

/-- A library that keeps a list of the functions that were called. -/
def recording (lib : Library w σ) : Library w (σ × List (String × Call w)) where
  symbol? name := (lib.symbol? name).map (recorded name)

theorem exports_recording {name : String} : lib.recording.Exports name ↔ lib.Exports name := by
  simp [Exports, recording]

/-- A call reaches the function of its own name, which is exported, and no other. What that function
answers is the answer to the call. -/
def Forwards (lib : Library w σ) (driver : Driver w (σ × List (String × Call w)))
    (call : Call w) : Prop :=
  ∃ function, lib.symbol? call.functionName = some function ∧
    ∀ state calls, driver call (state, calls) =
      ((function call state).1, (function call state).2, calls ++ [(call.functionName, call)])

theorem forwards_of_exports {native : NativeLibrary w (σ × List (String × Call w))}
    (hnative : lib.recording.resolve = .ok native) (h : lib.Exports call.functionName) :
    lib.Forwards native.driver call := by
  obtain ⟨function, hfunction⟩ := Option.isSome_iff_exists.1 h
  refine ⟨function, hfunction, fun state calls => ?_⟩
  have hrecorded : lib.recording.symbol? call.functionName =
      some (recorded call.functionName function) :=
    congrArg (Option.map (recorded call.functionName)) hfunction
  rw [driver_of_symbol hnative hrecorded]
  rfl

/-- A function that was reached is on the list; a call that leaves the list alone reached none. -/
theorem Forwards.ne_untouched {driver : Driver w (σ × List (String × Call w))}
    (h : lib.Forwards driver call) (state : σ) (calls : List (String × Call w))
    (reply : Reply call) : driver call (state, calls) ≠ (reply, state, calls) := by
  obtain ⟨function, -, hdriver⟩ := h
  rw [hdriver]
  intro hsame
  have hcalls : calls ++ [(call.functionName, call)] = calls := congrArg (·.2.2) hsame
  simp at hcalls

end Library

/-- **Resolution of a library.** A library is resolved exactly if it exports the seventeen required
functions. Otherwise the first of them that is missing is reported, whatever else is missing and
whether or not it exports the two for logical channels. In a resolved library every call goes to the
function of its own name and is answered by it. Only the two for logical channels may be missing:
each of them is answered "not supported", without a call, exactly if it is not exported itself. The
library supports logical channels exactly if it exports both. -/
theorem library_resolves (lib : Library w σ) :
    ((∃ native, lib.resolve = .ok native) ↔ ∀ name ∈ requiredNames, lib.Exports name) ∧
    (∀ e, lib.resolve = .error e ↔
      ∃ entry, lib.FirstMissing entry.symbol ∧ e = .missingSymbol entry) ∧
    ((∃ native, lib.resolve = .ok native) → ∃ native, lib.recording.resolve = .ok native ∧
      (∀ call, call.functionName ∉ logicalNames → lib.Forwards native.driver call) ∧
      ∀ call, call.functionName ∈ logicalNames →
        (lib.Exports call.functionName → lib.Forwards native.driver call) ∧
        ∀ state calls, native.driver call (state, calls) =
            (.untouched call ErrorCode.notSupported.asStatus, state, calls) ↔
          ¬ lib.Exports call.functionName) ∧
    ∀ native, lib.resolve = .ok native →
      (∀ call function, lib.symbol? call.functionName = some function →
        native.driver call = function call) ∧
      (native.supportsLogicalChannels = true ↔ ∀ name ∈ logicalNames, lib.Exports name) := by
  refine ⟨Library.exists_resolve_iff, fun e => Library.resolve_eq_error_iff, fun hok => ?_,
    fun native hnative => ⟨fun call function => Library.driver_of_symbol hnative, ?_⟩⟩
  · have hexports := Library.exists_resolve_iff.1 hok
    obtain ⟨native, hnative⟩ := Library.exists_resolve_iff.2 fun name hname =>
      Library.exports_recording.2 (hexports name hname)
    refine ⟨native, hnative, fun call hcall => ?_, fun call hcall => ⟨?_, ?_⟩⟩
    · rw [← call.symbol_entry] at hcall
      have hrequired := call.entry.symbol_mem_names.resolve_right hcall
      exact Library.forwards_of_exports hnative (hexports _ (call.symbol_entry ▸ hrequired))
    · exact Library.forwards_of_exports hnative
    · intro state calls
      constructor
      · intro huntouched hexported
        have hforwards := Library.forwards_of_exports hnative hexported
        exact hforwards.ne_untouched state calls _ huntouched
      · intro hmissing
        exact Library.driver_of_not_exports hnative (mt Library.exports_recording.1 hmissing) _
  · have hconnect := Library.function?_of_resolve hnative .logicalConnect
    have hdisconnect := Library.function?_of_resolve hnative .logicalDisconnect
    simp only [NativeLibrary.function?] at hconnect hdisconnect
    simp [NativeLibrary.supportsLogicalChannels, logicalNames, Library.Exports, hconnect,
      hdisconnect, EntryPoint.symbol]

/-- A missing function for logical channels is not reported, though it is looked up before. -/
example (driver : Driver w σ) :
    (Library.exporting driver fun entry => entry ∉ [.logicalConnect, .select, .ioctl]).resolve =
      .error (.missingSymbol .select) := rfl

end PassThru
