import JoyMesh.Library.JsonText
import JoyMesh.ProviderRoutes.FireConnect

namespace JoyMesh.ProviderRoutes.FireConnect

open JoyMesh.Library

section Processes

-- How a status call ended and what it wrote.
structure Exited where
  returncode : Int
  stdout : List UInt8
  stderr : List UInt8 := []

-- What json.loads goes by: its limits, and the repr of the float that a literal is
-- rounded to.
structure Loader where
  limits : Limits
  floatText : Points → String

section Loading

variable (loader : Loader)

mutual

def valueOf : JsonValue → Value
  | .null => .none
  | .bool b => .bool b
  | .int n => .int n
  | .float literal => .float (loader.floatText literal)
  | .str text => .str (stringOf text)
  | .arr items => .list (valuesOf items)
  | .obj members => .dict (membersOf members)

def valuesOf : List JsonValue → List Value
  | [] => []
  | item :: rest => valueOf item :: valuesOf rest

def membersOf : List (Points × JsonValue) → List (String × Value)
  | [] => []
  | (key, value) :: rest => (stringOf key, valueOf value) :: membersOf rest

end

-- Only a JSONDecodeError is caught where the output is loaded.
def loaded (text : Points) : Output :=
  match loadsText loader.limits text with
  | .ok (.obj members) => .object (.ofList (membersOf loader members))
  | .ok _ => .invalid
  | .error .decode => .invalid
  | .error .value =>
      .unloadable (.other "ValueError" "Exceeds the limit for integer string conversion")
  | .error .recursion => .unloadable (.other "RecursionError" "maximum recursion depth exceeded")

def Exited.output (exited : Exited) : Output :=
  let output := strip (decodeUtf8 exited.stdout)
  let error := strip (decodeUtf8 exited.stderr)
  if exited.returncode ≠ 0 then
    .failed (stringOf (if error ≠ [] then error else if output ≠ [] then output
      else points ("exit " ++ toString exited.returncode)))
  else loaded loader output

-- What the executable prints while a route is inspected.
structure Printed where
  installed : Bool := true
  auth : Option Exited
  status : Exited
  global : Option Exited

def Printed.reading (printed : Printed) : Reading where
  installed := printed.installed
  auth := printed.auth.map (Exited.output loader)
  status := printed.status.output loader
  global := printed.global.map (Exited.output loader)

end Loading

end Processes

section Soundness

-- What a for loop can go through.
def iterable : Value → Bool
  | .list _ => true
  | .dict _ => true
  | .str _ => true
  | _ => false

-- The fields that inspect_auth looks up in a set.
def authSound (payload : Mapping) : Bool :=
  (orElse (payload.get "backendLabel") (payload.get "backend")).hashable &&
    (payload.get "activeKeySource").hashable

def statusSound (payload : Mapping) : Bool := (payload.get "provider").hashable

def globalSound (payload : Mapping) : Bool :=
  !(payload.get "perHarness").truthy || iterable (payload.get "perHarness")

-- An output that is loaded or refused with the errors that are caught, and whose
-- fields are what they are read as.
def Output.Sound (check : Mapping → Bool) : Output → Prop
  | .object payload => check payload = true
  | .unloadable _ => False
  | _ => True

-- The flags of all harnesses are asked for only when the status is an object.
structure Reading.AllSound (reading : Reading) : Prop where
  auth : ∀ output ∈ reading.auth, output.Sound authSound
  status : reading.status.Sound statusSound
  global : ∀ payload, reading.status = .object payload →
    ∀ output ∈ reading.global, output.Sound globalSound

-- An inspection reads statuses where the connector has a harness.
def Reading.Sound (connectorId : String) (reading : Reading) : Prop :=
  connectorToHarness connectorId ≠ none → reading.installed = true → reading.AllSound

def Output.started : Output → Bool
  | .unstarted _ => false
  | _ => true

def Reading.outputs (reading : Reading) : List Output :=
  reading.auth.toList ++ reading.status :: reading.global.toList

end Soundness

section Totality

variable {texts : Texts} {payload : Mapping} {output : Output} {error : Raised} {value : Value}
  {connectorId harness : String} {globalFlag : Option Bool}

theorem optionalStr_ok (h : value.hashable = true) :
    ∃ text, optionalStr value = .ok text := ⟨_, if_pos h⟩

theorem optionalStr_error (h : value.hashable = false) :
    optionalStr value = .error typeError := if_neg (by simp [h])

theorem iterate_ok (h : iterable value = true) : ∃ items, iterate value = .ok items := by
  cases value with
  | list items => exact ⟨items, rfl⟩
  | dict items => exact ⟨_, rfl⟩
  | str s => exact ⟨_, rfl⟩
  | _ => cases h

theorem iterate_error (h : iterable value = false) : iterate value = .error typeError := by
  cases value with
  | list => cases h
  | dict => cases h
  | str => cases h
  | _ => rfl

-- What is iterated over is a list in place of a value that is false.
theorem globalSound_eq :
    globalSound payload = iterable (orElse (payload.get "perHarness") (.list [])) := by
  unfold globalSound orElse
  cases (payload.get "perHarness").truthy <;> simp [iterable]

theorem authOf_ok (h : authSound payload = true) : ∃ auth, authOf texts payload = .ok auth := by
  obtain ⟨hbackend, hsource⟩ := Bool.and_eq_true_iff.mp h
  obtain ⟨backend, hbackend⟩ := optionalStr_ok hbackend
  obtain ⟨source, hsource⟩ := optionalStr_ok hsource
  rw [authOf, hbackend, hsource]
  exact ⟨_, rfl⟩

theorem authOf_error (h : authSound payload = false) : authOf texts payload = .error typeError := by
  cases hbackend : (orElse (payload.get "backendLabel") (payload.get "backend")).hashable with
  | false =>
      rw [authOf, optionalStr_error hbackend]
      rfl
  | true =>
      rw [authSound, hbackend, Bool.true_and] at h
      obtain ⟨backend, hbackend⟩ := optionalStr_ok hbackend
      rw [authOf, hbackend, optionalStr_error h]
      rfl

theorem routeOf_ok {auth : AuthEvidence} (h : statusSound payload = true) :
    ∃ route, routeOf texts connectorId harness auth payload globalFlag = .ok route := by
  obtain ⟨reported, hreported⟩ := optionalStr_ok h
  rw [routeOf, hreported]
  exact ⟨_, rfl⟩

theorem routeOf_error {auth : AuthEvidence} (h : statusSound payload = false) :
    routeOf texts connectorId harness auth payload globalFlag = .error typeError := by
  rw [routeOf, optionalStr_error h]
  rfl

theorem inspectAuth_ok_iff {auth : Option Output} : (∃ found, inspectAuth texts auth = .ok found) ↔
    ∀ output ∈ auth, output.Sound authSound ∧ output.started = true := by
  cases auth with
  | none => exact iff_of_true ⟨_, rfl⟩ nofun
  | some output =>
      simp only [Option.mem_some_iff, forall_eq']
      cases output with
      | object payload =>
          cases hsound : authSound payload with
          | true => simpa [inspectAuth, json, Output.Sound, Output.started, hsound] using authOf_ok hsound
          | false => simp [inspectAuth, json, Output.Sound, hsound, authOf_error hsound]
      | _ => simp [inspectAuth, json, Output.Sound, Output.started]

theorem unstarted_of_inspectAuth {auth : Option Output}
    (hsound : ∀ output ∈ auth, output.Sound authSound) (h : inspectAuth texts auth = .error error) :
    auth = some (.unstarted error) := by
  cases auth with
  | none => cases h
  | some output =>
      have hsound := hsound output rfl
      cases output with
      | object payload =>
          obtain ⟨found, hfound⟩ : ∃ found, authOf texts payload = .ok found := authOf_ok hsound
          cases hfound.symm.trans h
      | unloadable => cases hsound
      | unstarted => cases h; rfl
      | _ => cases h

theorem globalEnabled_object :
    globalEnabled texts harness (some (.object payload)) = (do
      let items ← iterate (orElse (payload.get "perHarness") (.list []))
      return (items.find? fun item => (dictOf item).get "id" = .str harness).map fun item =>
        ((dictOf item).get "enabled").truthy) := rfl

theorem globalEnabled_ok (hsound : output.Sound globalSound) (hstarted : output.started = true) :
    ∃ flag, globalEnabled texts harness (some output) = .ok flag := by
  cases output with
  | object payload =>
      obtain ⟨items, hitems⟩ := iterate_ok (globalSound_eq.symm.trans hsound)
      rw [globalEnabled_object, hitems]
      exact ⟨_, rfl⟩
  | unloadable => cases hsound
  | unstarted => cases hstarted
  | _ => exact ⟨_, rfl⟩

theorem globalEnabled_error (h : globalEnabled texts harness (some output) = .error error) :
    output.Sound globalSound → output = .unstarted error := by
  intro hsound
  cases output with
  | object payload =>
      obtain ⟨items, hitems⟩ := iterate_ok (globalSound_eq.symm.trans hsound)
      rw [globalEnabled_object, hitems] at h
      cases h
  | unloadable => cases hsound
  | unstarted => cases h; rfl
  | _ => cases h

theorem sound_of_globalEnabled {auth : Option Output} {flag : Option Bool}
    (h : globalEnabled texts harness auth = .ok flag) :
    ∀ output ∈ auth, output.Sound globalSound := by
  rintro output rfl
  cases output with
  | object payload =>
      cases hsound : globalSound payload with
      | true => exact hsound
      | false =>
          rw [globalEnabled_object, iterate_error (globalSound_eq.symm.trans hsound)] at h
          cases h
  | unloadable => cases h
  | _ => trivial

section Routes

variable {connectorId harness : String} {reading : Reading} {route : Route}

theorem inspectRoute_of_harness (hharness : connectorToHarness connectorId = some harness)
    (hinstalled : reading.installed = true) :
    inspectRoute texts connectorId reading = (do
      let auth ← inspectAuth texts reading.auth
      match json texts reading.status with
      | .ok payload => do
          let globalFlag ← globalEnabled texts harness reading.global
          routeOf texts connectorId harness auth payload globalFlag
      | .error (.managerError detail) =>
          return unread connectorId " (FireConnect)" (auth.status = "authenticated") "invalid"
            "configuration_invalid"
            (.ofList [("detail", .str (texts.redactDiagnostics detail))])
      | .error (.raised error) => throw error) := by
  rw [inspectRoute, hharness]
  exact if_pos hinstalled

-- Without a harness or an executable nothing is read.
theorem inspectRoute_unread
    (h : connectorToHarness connectorId = none ∨ reading.installed = false) :
    ∃ route, inspectRoute texts connectorId reading = .ok route := by
  unfold inspectRoute
  split
  · split <;> exact ⟨_, rfl⟩
  next harness hharness =>
    rcases h with hnone | hinstalled
    · cases hharness.symm.trans hnone
    · rw [hinstalled]
      exact ⟨_, rfl⟩

theorem inspectRoute_ok (hsound : reading.Sound connectorId)
    (hstarted : ∀ output ∈ reading.outputs, output.started = true) :
    ∃ route, inspectRoute texts connectorId reading = .ok route := by
  cases hharness : connectorToHarness connectorId with
  | none => exact inspectRoute_unread (.inl hharness)
  | some harness =>
      cases hinstalled : reading.installed with
      | false => exact inspectRoute_unread (.inr hinstalled)
      | true =>
          obtain ⟨hauth, hstatus, hglobal⟩ := hsound (by simp [hharness]) hinstalled
          have hstarted : (∀ output ∈ reading.auth, output.started = true) ∧
              reading.status.started = true ∧ ∀ output ∈ reading.global, output.started = true := by
            simpa [Reading.outputs, or_imp, forall_and] using hstarted
          obtain ⟨auth, hread⟩ : ∃ auth, inspectAuth texts reading.auth = .ok auth :=
            inspectAuth_ok_iff.mpr fun output houtput =>
              ⟨hauth output houtput, hstarted.1 output houtput⟩
          rw [inspectRoute_of_harness hharness hinstalled, hread]
          cases houtput : reading.status with
          | object payload =>
              have hflag : ∃ flag, globalEnabled texts harness reading.global = .ok flag := by
                cases hcall : reading.global with
                | none => exact ⟨_, rfl⟩
                | some output =>
                    exact globalEnabled_ok (hglobal payload houtput output hcall)
                      (hstarted.2.2 output hcall)
              obtain ⟨flag, hflag⟩ := hflag
              rw [houtput] at hstatus
              obtain ⟨route, hroute⟩ :
                  ∃ route, routeOf texts connectorId harness auth payload flag = .ok route :=
                routeOf_ok hstatus
              exact ⟨route, by simp [json, hflag, hroute, bind, Except.bind]⟩
          | unloadable =>
              rw [houtput] at hstatus
              cases hstatus
          | unstarted =>
              rw [houtput] at hstarted
              cases hstarted.2.1
          | _ => exact ⟨_, rfl⟩

theorem sound_of_inspectRoute (h : inspectRoute texts connectorId reading = .ok route) :
    reading.Sound connectorId := by
  intro hconnector hinstalled
  obtain ⟨harness, hharness⟩ := Option.ne_none_iff_exists'.mp hconnector
  rw [inspectRoute_of_harness hharness hinstalled] at h
  cases hread : inspectAuth texts reading.auth with
  | error => simp [hread, bind, Except.bind] at h
  | ok auth =>
      have hauth := inspectAuth_ok_iff.mp ⟨auth, hread⟩
      rw [hread] at h
      refine ⟨fun output houtput => (hauth output houtput).1, ?_, fun payload hpayload => ?_⟩
      · cases houtput : reading.status with
        | object payload =>
            cases hsound : statusSound payload with
            | true => exact hsound
            | false =>
                rw [houtput] at h
                cases hflag : globalEnabled texts harness reading.global with
                | error => simp [json, hflag, bind, Except.bind] at h
                | ok flag => simp [json, hflag, routeOf_error hsound, bind, Except.bind] at h
        | unloadable error =>
            rw [houtput] at h
            cases h
        | _ => trivial
      · rw [hpayload] at h
        cases hflag : globalEnabled texts harness reading.global with
        | error => simp [json, hflag, bind, Except.bind] at h
        | ok flag => exact sound_of_globalEnabled hflag

-- What a sound reading raises comes from a call that was not started.
theorem unstarted_of_inspectRoute (hsound : reading.Sound connectorId)
    (h : inspectRoute texts connectorId reading = .error error) :
    .unstarted error ∈ reading.outputs := by
  cases hharness : connectorToHarness connectorId with
  | none =>
      obtain ⟨route, hroute⟩ : ∃ route, inspectRoute texts connectorId reading = .ok route :=
        inspectRoute_unread (.inl hharness)
      cases hroute.symm.trans h
  | some harness =>
      cases hinstalled : reading.installed with
      | false =>
          obtain ⟨route, hroute⟩ : ∃ route, inspectRoute texts connectorId reading = .ok route :=
            inspectRoute_unread (.inr hinstalled)
          cases hroute.symm.trans h
      | true =>
          obtain ⟨hauth, hstatus, hglobal⟩ := hsound (by simp [hharness]) hinstalled
          rw [inspectRoute_of_harness hharness hinstalled] at h
          cases hread : inspectAuth texts reading.auth with
          | error found =>
              rw [hread] at h
              cases h
              simp [Reading.outputs, unstarted_of_inspectAuth hauth hread]
          | ok auth =>
              rw [hread] at h
              cases houtput : reading.status with
              | object payload =>
                  rw [houtput] at hstatus h
                  cases hflag : globalEnabled texts harness reading.global with
                  | ok flag =>
                      obtain ⟨route, hroute⟩ :
                          ∃ route, routeOf texts connectorId harness auth payload flag = .ok route :=
                        routeOf_ok hstatus
                      simp [json, hflag, hroute, bind, Except.bind] at h
                  | error found =>
                      obtain rfl : found = error := by simpa [json, hflag, bind, Except.bind] using h
                      cases hcall : reading.global with
                      | none =>
                          rw [hcall] at hflag
                          cases hflag
                      | some output =>
                          rw [hcall] at hflag
                          have hout := globalEnabled_error hflag (hglobal payload houtput output hcall)
                          simp [Reading.outputs, hcall, hout]
              | unloadable =>
                  rw [houtput] at hstatus
                  cases hstatus
              | unstarted found =>
                  rw [houtput] at h
                  cases h
                  simp [Reading.outputs, houtput]
              | _ =>
                  rw [houtput] at h
                  cases h

end Routes

end Totality

section Printing

variable {texts : Texts} {loader : Loader} {printed : Printed}

theorem started_output {exited : Exited} : (exited.output loader).started = true := by
  unfold Exited.output
  dsimp only
  split
  · rfl
  · unfold loaded
    split <;> rfl

theorem started_reading : ∀ output ∈ (printed.reading loader).outputs, output.started = true := by
  intro output houtput
  obtain ⟨exited, rfl⟩ : ∃ exited, Exited.output loader exited = output := by
    simp only [Reading.outputs, Printed.reading, List.mem_append, Option.mem_toList,
      Option.map_eq_some_iff, List.mem_cons] at houtput
    rcases houtput with ⟨exited, -, rfl⟩ | rfl | ⟨exited, -, rfl⟩
    · exact ⟨exited, rfl⟩
    · exact ⟨_, rfl⟩
    · exact ⟨exited, rfl⟩
  exact started_output

theorem printed_auth_iff : (∃ auth, inspectAuth texts (printed.reading loader).auth = .ok auth) ↔
    ∀ output ∈ (printed.reading loader).auth, output.Sound authSound := by
  rw [inspectAuth_ok_iff]
  refine forall₂_congr fun output houtput => and_iff_left ?_
  have hmem : output ∈ (printed.reading loader).outputs :=
    List.mem_append_left _ (Option.mem_toList.mpr houtput)
  exact started_reading output hmem

theorem printed_route_iff {connectorId : String} :
    (∃ route, inspectRoute texts connectorId (printed.reading loader) = .ok route) ↔
      (printed.reading loader).Sound connectorId :=
  ⟨fun ⟨_, hroute⟩ => sound_of_inspectRoute hroute, fun hsound => inspectRoute_ok hsound started_reading⟩

end Printing

end JoyMesh.ProviderRoutes.FireConnect
