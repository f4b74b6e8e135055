import Mathlib.Data.List.Induction
import IotCore.Library.Machine
import IotCore.Model.DeviceAdvisor

/-! # What a run of the Device Advisor tests leaves behind

At any time there are one thing and one certificate at most. A run that ends has deleted both,
unless a call that prepares a test or one that handles an exception has raised, whether or not
that call took effect. -/

namespace IotCore.DeviceAdvisor

open Machine

variable {cfg : Config} {s s' : State}

/-! ## Results -/

/-- `test_result` after the tests. -/
def record (results : Dict String String) (finished : List (String × String)) :
    Dict String String :=
  finished.foldl (fun results test => results.set test.1 test.2) results

theorem record_append (results : Dict String String) (finished : List (String × String))
    (test : String × String) :
    record results (finished ++ [test]) = (record results finished).set test.1 test.2 := by
  simp [record]

/-- The last result of a test counts. -/
theorem lookup_record (finished : List (String × String)) (results : Dict String String)
    (name : String) :
    (record results finished).lookup name =
      (finished.reverse.lookup name).or (results.lookup name) := by
  induction finished generalizing results with
  | nil => rfl
  | cons test finished ih =>
      obtain ⟨test, status⟩ := test
      rw [record, List.foldl_cons, ← record, ih, Dict.lookup_set, List.reverse_cons,
        List.lookup_append, Dict.lookup_entry]
      cases finished.reverse.lookup name with
      | some result => rfl
      | none => by_cases hname : name = test <;> simp [hname]

/-- Every entry is the one that counts. -/
theorem lookup_of_mem_record (finished : List (String × String)) {test : String × String}
    (h : test ∈ record [] finished) : (record [] finished).lookup test.1 = some test.2 := by
  induction finished using List.reverseRecOn with
  | nil => cases h
  | append_singleton finished last ih =>
      rw [record_append] at h ⊢
      rw [Dict.lookup_set]
      rcases List.mem_cons.mp h with rfl | hmem
      · rw [if_pos rfl]
      · obtain ⟨hmem, hne⟩ := List.mem_filter.mp hmem
        rw [if_neg (by simpa using hne), ih hmem]

/-- `failed` after the loop over `test_result`. -/
theorem all_passed_record (finished : List (String × String)) :
    ((record [] finished).all fun entry => passed entry.2) = true ↔
      ∀ name status, (record [] finished).lookup name = some status → passed status = true := by
  rw [List.all_eq_true]
  constructor
  · intro h name status hlookup
    obtain ⟨before, after, heq, -⟩ := List.lookup_eq_some_iff.mp hlookup
    exact h (name, status) (by simp [heq])
  · intro h test hmem
    exact h test.1 test.2 (lookup_of_mem_record finished hmem)

/-! ## Calls -/

/-- The calls of a test. -/
def Call.tests : Call → Bool
  | .updateThingShadow | .getThingShadow | .startSuiteRun | .getEndpoint | .getSuiteRun | .runTest
  | .processLogs | .cleanup _ .tested => true
  | _ => false

/-- The calls in an `except` clause. -/
def Call.handles : Call → Bool
  | .deleteThing | .cleanup _ .attachFailed | .cleanup _ .testFailed => true
  | _ => false

/-- The things and certificates that are left when a call that prepares a test has raised. A call
that makes one may have made it. -/
def Call.Left (round : Nat) : Call → List Nat → List Nat → Prop
  | .createThing, things, certificates =>
      (things = [] ∨ things = [round]) ∧ certificates = []
  | .createKeysAndCertificate, things, certificates =>
      things = [] ∧ (certificates = [] ∨ certificates = [round])
  | .writeCertificate, things, certificates | .writeKey, things, certificates
  | .attachThingPrincipal, things, certificates => things = [] ∧ certificates = [round]
  | _, _, _ => False

/-- The place of a call in `delete_thing_with_certi`. -/
def Cleanup.rank : Cleanup → Nat
  | .detachThingPrincipal => 0
  | .updateCertificate => 1
  | .deleteCertificate => 2
  | .deleteThing => 3
  | .removeCertificate => 4
  | .removeKey => 5

/-! ## The invariant -/

structure Preparing (s : State) : Prop where
  raised : s.raised = []
  certificate : s.round = 1 ∧ s.certificate = none ∨
    ∃ c, s.certificate = some c ∧ c + 1 = s.round
  finished : s.finished.length + 1 = s.round

structure Testing (s : State) : Prop where
  raised : s.raised = []
  certificate : s.certificate = some s.round
  things : s.things = [s.round]
  certificates : s.certificates = [s.round]

/-- What a call before has deleted does not exist. -/
structure Deleting (call : Cleanup) (s : State) : Prop where
  certificate : s.certificate = some s.round
  things : s.things = [] ∨ s.things = [s.round] ∧ call.rank ≤ 3
  certificates : s.certificates = [] ∨ s.certificates = [s.round] ∧ call.rank ≤ 2

/-- A deletion for a certificate that is not the one of the thing. -/
structure Straying (call : Cleanup) (s : State) : Prop where
  raised : s.raised = [.attachThingPrincipal]
  certificate : ∃ c, s.certificate = some c ∧ c < s.round
  things : s.things = [] ∨ s.things = [s.round] ∧ call.rank ≤ 3
  certificates : s.certificates = [s.round]

def Calling (s : State) : Call → Prop
  | .createThing => Preparing s ∧ s.things = [] ∧ s.certificates = []
  | .createKeysAndCertificate => Preparing s ∧ s.things = [s.round] ∧ s.certificates = []
  | .writeCertificate | .writeKey | .attachThingPrincipal =>
      Preparing s ∧ s.things = [s.round] ∧ s.certificates = [s.round]
  | .deleteThing =>
      s.things = [s.round] ∧
        ∃ call, s.raised = [call] ∧ call ≠ .createThing ∧ call.Left s.round [] s.certificates
  | .cleanup call .attachFailed => Straying call s
  | .cleanup call .tested => Deleting call s ∧ s.raised = [] ∧ s.finished.length = s.round
  | .cleanup call .testFailed =>
      Deleting call s ∧ s.raised ≠ [] ∧ ∀ call ∈ s.raised, call.tests = true
  | .processLogs => Testing s ∧ s.finished.length = s.round
  | .updateThingShadow | .getThingShadow | .startSuiteRun | .getEndpoint | .getSuiteRun
  | .runTest => Testing s ∧ s.finished.length + 1 = s.round

/-- One thing and one certificate at most, those of the round. -/
structure Tidy (s : State) : Prop where
  things : s.things = [] ∨ s.things = [s.round]
  certificates : s.certificates = [] ∨ s.certificates = [s.round]

/-- How a run can end, and what it leaves behind. -/
def Ending (cfg : Config) (s : State) : Outcome → Prop
  | .exit code =>
      s.raised = [] ∧ s.things = [] ∧ s.certificates = [] ∧ s.finished.map Prod.fst = cfg.tests ∧
          (code = 0 ∧ (∀ name status, s.testResult.lookup name = some status →
              passed status = true) ∨
            code = -1 ∧ ∃ name status, s.testResult.lookup name = some status ∧
              passed status = false) ∨
        code = -1 ∧ ∃ call, s.raised = [call] ∧ call.Left s.round s.things s.certificates
  | .nameError =>
      s.raised = [.attachThingPrincipal] ∧ s.round = 1 ∧ s.things = [1] ∧ s.certificates = [1]
  | .typeError =>
      s.things = [] ∧ s.certificates = [] ∧ s.raised ≠ [] ∧ ∀ call ∈ s.raised, call.tests = true
  | .raised => Tidy s ∧ ∃ before call, s.raised = before ++ [call] ∧ call.handles = true

def Place (cfg : Config) (s : State) : Prop :=
  match s.pc with
  | .nextTest =>
      s.things = [] ∧ s.certificates = [] ∧ s.raised = [] ∧ s.finished.length = s.round ∧
        (s.round = 0 ∧ s.certificate = none ∨ s.certificate = some s.round)
  | .calling call => Calling s call
  | .ended outcome => Ending cfg s outcome

/-- What the loop over the tests has done. -/
structure Progress (cfg : Config) (s : State) : Prop where
  remaining : s.remaining = cfg.tests.drop s.round
  testName : ∀ n, s.round = n + 1 → cfg.tests[n]? = some s.testName
  finished : s.finished.map Prod.fst = cfg.tests.take s.finished.length
  reported : ∀ test ∈ s.finished, test.2 ≠ "PENDING" ∧ test.2 ≠ "RUNNING"
  testResult : s.testResult = record [] s.finished

/-! ## What exists -/

theorem Deleting.tidy {call : Cleanup} (h : Deleting call s) : Tidy s where
  things := h.things.imp_right And.left
  certificates := h.certificates.imp_right And.left

theorem left_cases {round : Nat} {call : Call} {things certificates : List Nat}
    (h : call.Left round things certificates) :
    (things = [] ∨ things = [round]) ∧ (certificates = [] ∨ certificates = [round]) := by
  cases call with
  | createThing => exact ⟨h.1, .inl h.2⟩
  | createKeysAndCertificate => exact ⟨.inl h.1, h.2⟩
  | writeCertificate | writeKey | attachThingPrincipal => exact ⟨.inl h.1, .inr h.2⟩
  | _ => exact h.elim

theorem tidy_of_calling {call : Call} (h : Calling s call) : Tidy s := by
  cases call with
  | createThing => exact ⟨.inl h.2.1, .inl h.2.2⟩
  | createKeysAndCertificate => exact ⟨.inr h.2.1, .inl h.2.2⟩
  | writeCertificate | writeKey | attachThingPrincipal => exact ⟨.inr h.2.1, .inr h.2.2⟩
  | deleteThing =>
      obtain ⟨hthings, call, -, -, hleft⟩ := h
      exact ⟨.inr hthings, (left_cases hleft).2⟩
  | updateThingShadow | getThingShadow | startSuiteRun | getEndpoint | getSuiteRun | runTest
  | processLogs => exact ⟨.inr h.1.things, .inr h.1.certificates⟩
  | cleanup call site =>
      cases site with
      | attachFailed => exact ⟨h.things.imp_right And.left, .inr h.certificates⟩
      | tested | testFailed => exact h.1.tidy

theorem tidy_of_ending {outcome : Outcome} (h : Ending cfg s outcome) : Tidy s := by
  cases outcome with
  | exit code =>
      obtain ⟨-, hthings, hcertificates, -⟩ | ⟨-, call, -, hleft⟩ := h
      · exact ⟨.inl hthings, .inl hcertificates⟩
      · obtain ⟨hthings, hcertificates⟩ := left_cases hleft
        exact ⟨hthings, hcertificates⟩
  | nameError =>
      obtain ⟨-, hround, hthings, hcertificates⟩ := h
      exact ⟨.inr (by rw [hround, hthings]), .inr (by rw [hround, hcertificates])⟩
  | typeError => exact ⟨.inl h.1, .inl h.2.1⟩
  | raised => exact h.1

theorem tidy_of_place (h : Place cfg s) : Tidy s := by
  unfold Place at h
  split at h
  · exact ⟨.inl h.1, .inl h.2.1⟩
  · exact tidy_of_calling h
  · exact tidy_of_ending h

/-! ## Elsewhere in the program -/

theorem Preparing.goto (h : Preparing s) (pc : Pc) : Preparing { s with pc } :=
  ⟨h.raised, h.certificate, h.finished⟩

theorem Testing.goto (h : Testing s) (pc : Pc) : Testing { s with pc } :=
  ⟨h.raised, h.certificate, h.things, h.certificates⟩

theorem Deleting.goto {call : Cleanup} (h : Deleting call s) (pc : Pc) :
    Deleting call { s with pc } :=
  ⟨h.certificate, h.things, h.certificates⟩

theorem Straying.goto {call : Cleanup} (h : Straying call s) (pc : Pc) :
    Straying call { s with pc } :=
  ⟨h.raised, h.certificate, h.things, h.certificates⟩

/-! ## Deletions -/

theorem Testing.deleting (h : Testing s) : Deleting .detachThingPrincipal s :=
  ⟨h.certificate, .inr ⟨h.things, by decide⟩, .inr ⟨h.certificates, by decide⟩⟩

theorem filter_cases {xs : List Nat} {n : Nat} (h : xs = [] ∨ xs = [n]) (p : Nat → Bool) :
    xs.filter p = [] ∨ xs.filter p = [n] := by
  rcases h with rfl | rfl
  · exact .inl rfl
  · cases hp : p n <;> simp [hp]

theorem Tidy.delete (h : Tidy s) (call : Cleanup) : Tidy (DeviceAdvisor.delete s call) := by
  cases call with
  | deleteCertificate => exact ⟨h.things, filter_cases h.certificates _⟩
  | deleteThing => exact ⟨filter_cases h.things _, h.certificates⟩
  | detachThingPrincipal | updateCertificate | removeCertificate | removeKey => exact h

/-- `delete_thing_with_certi` is called again. -/
theorem Deleting.again {call : Cleanup} (h : Deleting call s) : Deleting .detachThingPrincipal s :=
  ⟨h.certificate, h.things.imp_right fun h => ⟨h.1, by decide⟩,
    h.certificates.imp_right fun h => ⟨h.1, by decide⟩⟩

theorem Deleting.next {call next : Cleanup} (h : Deleting call s) (hnext : call.next = some next) :
    Deleting next (delete s call) := by
  obtain ⟨hcertificate, hthings, hcertificates⟩ := h
  cases call with
  | detachThingPrincipal | updateCertificate =>
      cases hnext
      exact ⟨hcertificate, hthings.imp_right fun h => ⟨h.1, by decide⟩,
        hcertificates.imp_right fun h => ⟨h.1, by decide⟩⟩
  | deleteCertificate =>
      cases hnext
      refine ⟨hcertificate, hthings.imp_right fun h => ⟨h.1, by decide⟩, .inl ?_⟩
      rcases hcertificates with hnil | ⟨hround, -⟩ <;> simp [delete, *]
  | deleteThing =>
      cases hnext
      refine ⟨hcertificate, .inl ?_, .inl ?_⟩
      · rcases hthings with hnil | ⟨hround, -⟩ <;> simp [delete, *]
      · simpa [delete, Cleanup.rank] using hcertificates
  | removeCertificate =>
      cases hnext
      exact ⟨hcertificate, .inl (by simpa [delete, Cleanup.rank] using hthings),
        .inl (by simpa [delete, Cleanup.rank] using hcertificates)⟩
  | removeKey => cases hnext

/-- A call of `delete_thing_with_certi` has taken effect, and all are made again. -/
theorem Deleting.affected {call : Cleanup} (h : Deleting call s) :
    Deleting .detachThingPrincipal (delete s call) := by
  cases hnext : call.next with
  | some next => exact (h.next hnext).again
  | none =>
      obtain rfl : call = .removeKey := by
        cases call <;> cases hnext
        rfl
      exact h.again

theorem Deleting.done (h : Deleting .removeKey s) : s.things = [] ∧ s.certificates = [] :=
  ⟨by simpa [Cleanup.rank] using h.things, by simpa [Cleanup.rank] using h.certificates⟩

theorem Straying.next {call next : Cleanup} (h : Straying call s) (hnext : call.next = some next) :
    Straying next (delete s call) := by
  obtain ⟨hraised, ⟨c, hcertificate, hc⟩, hthings, hcertificates⟩ := h
  cases call with
  | detachThingPrincipal | updateCertificate =>
      cases hnext
      exact ⟨hraised, ⟨c, hcertificate, hc⟩, hthings.imp_right fun h => ⟨h.1, by decide⟩,
        hcertificates⟩
  | deleteCertificate =>
      cases hnext
      refine ⟨hraised, ⟨c, hcertificate, hc⟩, hthings.imp_right fun h => ⟨h.1, by decide⟩, ?_⟩
      -- the certificate of a round before is deleted once more
      have hne : s.round ≠ c := by omega
      simp [delete, hcertificate, hcertificates, hne]
  | deleteThing =>
      cases hnext
      refine ⟨hraised, ⟨c, hcertificate, hc⟩, .inl ?_, hcertificates⟩
      rcases hthings with hnil | ⟨hround, -⟩ <;> simp [delete, *]
  | removeCertificate =>
      cases hnext
      exact ⟨hraised, ⟨c, hcertificate, hc⟩,
        .inl (by simpa [delete, Cleanup.rank] using hthings), hcertificates⟩
  | removeKey => cases hnext

theorem Straying.done (h : Straying .removeKey s) : s.things = [] := by
  simpa [Cleanup.rank] using h.things

/-! ## Steps -/

/-- The calls of a round leave what the loop has done as it is. -/
structure Same (s s' : State) : Prop where
  remaining : s'.remaining = s.remaining
  testName : s'.testName = s.testName
  round : s'.round = s.round
  testResult : s'.testResult = s.testResult
  finished : s'.finished = s.finished

theorem Progress.same (h : Progress cfg s) (hs : Same s s') : Progress cfg s' where
  remaining := by rw [hs.remaining, hs.round, h.remaining]
  testName n hn := by
    rw [hs.testName]
    exact h.testName n (hs.round ▸ hn)
  finished := by rw [hs.finished, h.finished]
  reported := by
    rw [hs.finished]
    exact h.reported
  testResult := by rw [hs.testResult, hs.finished, h.testResult]

theorem delete_raised (s : State) (call : Cleanup) : (delete s call).raised = s.raised := by
  cases call <;> rfl

theorem affect_eq (s : State) (call : Call) :
    ∃ things certificates, affect s call = { s with things, certificates } := by
  cases call with
  | cleanup call site => cases call <;> exact ⟨_, _, rfl⟩
  | _ => exact ⟨_, _, rfl⟩

theorem same_affect (s : State) (call : Call) : Same s (affect s call) := by
  obtain ⟨things, certificates, haffect⟩ := affect_eq s call
  rw [haffect]
  exact ⟨rfl, rfl, rfl, rfl, rfl⟩

theorem Same.trans {s'' : State} (h : Same s s') (h' : Same s' s'') : Same s s'' where
  remaining := h'.remaining.trans h.remaining
  testName := h'.testName.trans h.testName
  round := h'.round.trans h.round
  testResult := h'.testResult.trans h.testResult
  finished := h'.finished.trans h.finished

theorem same_returns {call : Call} (h : returns cfg s call = some s') : Same s s' := by
  cases call with
  | startSuiteRun | runTest =>
      simp only [returns, Option.ite_none_right_eq_some] at h
      obtain ⟨-, h⟩ := h
      cases h
      exact ⟨rfl, rfl, rfl, rfl, rfl⟩
  | cleanup call site =>
      simp only [returns] at h
      split at h <;> cases h
      · exact ⟨rfl, rfl, rfl, rfl, rfl⟩
      · cases site <;> exact ⟨rfl, rfl, rfl, rfl, rfl⟩
  | _ => cases h <;> exact ⟨rfl, rfl, rfl, rfl, rfl⟩

theorem same_throws (s : State) (call : Call) :
    Same s (throws { s with raised := s.raised ++ [call] } call) := by
  cases call with
  | attachThingPrincipal =>
      simp only [throws]
      split <;> exact ⟨rfl, rfl, rfl, rfl, rfl⟩
  | cleanup call site => cases site <;> exact ⟨rfl, rfl, rfl, rfl, rfl⟩
  | _ => exact ⟨rfl, rfl, rfl, rfl, rfl⟩

/-- A call of `delete_thing_with_certi` returns. -/
theorem place_cleanup {call : Cleanup} {site : Site} (h : Calling s (.cleanup call site))
    (hs : returns cfg (delete s call) (.cleanup call site) = some s') : Place cfg s' := by
  simp only [returns] at hs
  split at hs <;> rename_i hnext <;> cases hs
  · cases site with
    | attachFailed =>
        have hstraying := Straying.next h hnext
        exact hstraying.goto _
    | tested | testFailed =>
        obtain ⟨hdeleting, hrest⟩ := h
        have hdeleting := hdeleting.next hnext
        obtain ⟨things, certificates, hdelete⟩ := affect_eq s (.cleanup call .tested)
        rw [affect] at hdelete
        rw [hdelete] at hdeleting ⊢
        exact ⟨hdeleting.goto _, hrest⟩
  · obtain rfl : call = .removeKey := by
      cases call <;> cases hnext
      rfl
    cases site with
    | attachFailed =>
        have hleft : Call.attachThingPrincipal.Left s.round s.things s.certificates :=
          ⟨h.done, h.certificates⟩
        exact .inr ⟨rfl, .attachThingPrincipal, h.raised, hleft⟩
    | tested =>
        obtain ⟨hdeleting, hraised, hfinished⟩ := h
        exact ⟨hdeleting.done.1, hdeleting.done.2, hraised, hfinished, .inr hdeleting.certificate⟩
    | testFailed =>
        obtain ⟨hdeleting, hne, htests⟩ := h
        exact ⟨hdeleting.done.1, hdeleting.done.2, hne, htests⟩

/-- A call returns. -/
theorem place_returns {call : Call} (h : Calling s call)
    (hs : returns cfg (affect s call) call = some s') : Place cfg s' := by
  cases call with
  | createThing =>
      cases hs
      obtain ⟨⟨hraised, hcertificate, hfinished⟩, hthings, hcertificates⟩ := h
      exact ⟨⟨hraised, hcertificate, hfinished⟩, by simp [State.call, affect, hthings],
        hcertificates⟩
  | createKeysAndCertificate =>
      cases hs
      obtain ⟨⟨hraised, hcertificate, hfinished⟩, hthings, hcertificates⟩ := h
      exact ⟨⟨hraised, hcertificate, hfinished⟩, hthings,
        by simp [State.call, affect, hcertificates]⟩
  | writeCertificate | writeKey =>
      cases hs
      exact ⟨h.1.goto _, h.2⟩
  | deleteThing =>
      cases hs
      obtain ⟨hthings, call, hraised, -, hleft⟩ := h
      refine .inr ⟨rfl, call, hraised, ?_⟩
      simpa [State.stop, affect, delete, hthings] using hleft
  | attachThingPrincipal =>
      cases hs
      obtain ⟨⟨hraised, -, hfinished⟩, hthings, hcertificates⟩ := h
      exact ⟨⟨hraised, rfl, hthings, hcertificates⟩, hfinished⟩
  | updateThingShadow | getThingShadow | getEndpoint =>
      cases hs
      exact ⟨h.1.goto _, h.2⟩
  | startSuiteRun | runTest =>
      simp only [returns, Option.ite_none_right_eq_some] at hs
      obtain ⟨-, hs⟩ := hs
      cases hs
      exact ⟨h.1.goto _, h.2⟩
  | getSuiteRun => cases hs
  | processLogs =>
      cases hs
      exact ⟨h.1.deleting.goto _, h.1.raised, h.2⟩
  | cleanup call site => exact place_cleanup h hs

/-- An exception after the thing was created, before its certificate is attached. -/
theorem deleteThing_throws {call : Call} (hraised : s.raised = []) (hthings : s.things = [s.round])
    (hne : call ≠ .createThing) (hleft : call.Left s.round [] s.certificates) :
    Calling ({ s with raised := s.raised ++ [call] }.call .deleteThing) .deleteThing :=
  ⟨hthings, call, by simp [State.call, hraised], hne, hleft⟩

/-- The exception of a test. -/
theorem deleting_throws {call : Call} (h : Deleting .detachThingPrincipal s)
    (hraised : s.raised = []) (htests : call.tests = true) {pc : Pc} :
    Calling { s with pc, raised := s.raised ++ [call] }
      (.cleanup .detachThingPrincipal .testFailed) := by
  obtain ⟨hcertificate, hthings, hcertificates⟩ := h
  have hfirst : s.raised ++ [call] = [call] := by rw [hraised, List.nil_append]
  refine ⟨⟨hcertificate, hthings, hcertificates⟩, ?_, ?_⟩
  · intro hnil
    cases hfirst.symm.trans hnil
  · intro other hother
    obtain rfl : other = call := List.mem_singleton.mp (hfirst ▸ hother)
    exact htests

/-- An exception, with or without the effect of the call. -/
theorem place_throws {call : Call} {t : State} (h : Calling s call)
    (ht : t = s ∨ t = affect s call) :
    Place cfg (throws { t with raised := t.raised ++ [call] } call) := by
  have htidy := tidy_of_calling h
  cases call with
  | createThing =>
      obtain ⟨⟨hraised, -, -⟩, hthings, hcertificates⟩ := h
      have hfirst : s.raised ++ [.createThing] = [.createThing] := by rw [hraised]; rfl
      rcases ht with rfl | rfl
      · exact .inr ⟨rfl, .createThing, hfirst, .inl hthings, hcertificates⟩
      · have hmade : s.things ++ [s.round] = [s.round] := by rw [hthings]; rfl
        exact .inr ⟨rfl, .createThing, hfirst, .inr hmade, hcertificates⟩
  | createKeysAndCertificate =>
      obtain ⟨⟨hraised, -, -⟩, hthings, hcertificates⟩ := h
      rcases ht with rfl | rfl
      · exact deleteThing_throws hraised hthings (by decide) ⟨rfl, .inl hcertificates⟩
      · exact deleteThing_throws hraised hthings (by decide)
          ⟨rfl, .inr (by simp [affect, hcertificates])⟩
  | writeCertificate | writeKey =>
      obtain ⟨⟨hraised, -, -⟩, hthings, hcertificates⟩ := h
      obtain rfl : t = s := ht.elim id id
      exact deleteThing_throws hraised hthings (by decide) ⟨rfl, hcertificates⟩
  | deleteThing =>
      have htidy' : Tidy t := ht.elim (· ▸ htidy) (· ▸ htidy.delete .deleteThing)
      exact ⟨⟨htidy'.things, htidy'.certificates⟩, t.raised, .deleteThing, rfl, rfl⟩
  | attachThingPrincipal =>
      obtain rfl : t = s := ht.elim id id
      obtain ⟨⟨hraised, hcertificate, hfinished⟩, hthings, hcertificates⟩ := h
      have hfirst : t.raised ++ [.attachThingPrincipal] = [.attachThingPrincipal] := by
        rw [hraised]
        rfl
      obtain ⟨hround, hnone⟩ | ⟨c, hc, hround⟩ := hcertificate
      · -- `certificate_id` has no value in the first round
        simp only [throws, hnone]
        exact ⟨hfirst, hround, hround ▸ hthings, hround ▸ hcertificates⟩
      · have hlt : c < t.round := by omega
        simp only [throws, hc]
        exact ⟨hfirst, ⟨c, rfl, hlt⟩, .inr ⟨hthings, by decide⟩, hcertificates⟩
  | updateThingShadow | getThingShadow | startSuiteRun | getEndpoint | getSuiteRun | runTest
  | processLogs =>
      obtain rfl : t = s := ht.elim id id
      exact deleting_throws h.1.deleting h.1.raised rfl
  | cleanup call site =>
      cases site with
      | attachFailed | testFailed =>
          have htidy' : Tidy t := ht.elim (· ▸ htidy) (· ▸ htidy.delete call)
          exact ⟨⟨htidy'.things, htidy'.certificates⟩, t.raised, _, rfl, rfl⟩
      | tested =>
          obtain ⟨hdeleting, hraised, -⟩ := h
          rcases ht with rfl | rfl
          · exact deleting_throws hdeleting.again hraised rfl
          · exact deleting_throws hdeleting.affected (by rw [delete_raised, hraised]) rfl

/-- What the exit code says. -/
theorem ending_exit (h : Progress cfg s) (hthings : s.things = [])
    (hcertificates : s.certificates = []) (hraised : s.raised = [])
    (hall : s.finished.map Prod.fst = cfg.tests) :
    Ending cfg s (.exit (if s.testResult.all fun entry => passed entry.2 then 0 else -1)) := by
  refine .inl ⟨hraised, hthings, hcertificates, hall, ?_⟩
  have hpassed := all_passed_record s.finished
  rw [← h.testResult] at hpassed
  split
  next hok => exact .inl ⟨rfl, hpassed.mp hok⟩
  next hfailed =>
    rw [hpassed] at hfailed
    push Not at hfailed
    obtain ⟨name, status, hlookup, hstatus⟩ := hfailed
    exact .inr ⟨rfl, name, status, hlookup, by simpa using hstatus⟩

theorem inv_nextTest (h : Progress cfg s) (hplace : Place cfg s) (hpc : s.pc = .nextTest) :
    Progress cfg (nextTest s) ∧ Place cfg (nextTest s) := by
  simp only [Place, hpc] at hplace
  obtain ⟨hthings, hcertificates, hraised, hfinished, hcertificate⟩ := hplace
  have hremaining := h.remaining
  cases hrest : s.remaining with
  | nil =>
      rw [hrest] at hremaining
      simp only [nextTest, hrest]
      have hlength : cfg.tests.length ≤ s.round := List.drop_eq_nil_iff.mp hremaining.symm
      have hall : s.finished.map Prod.fst = cfg.tests := by
        rw [h.finished, hfinished, List.take_of_length_le hlength]
      have hending := ending_exit h hthings hcertificates hraised hall
      exact ⟨h.same ⟨rfl, rfl, rfl, rfl, rfl⟩, hending⟩
  | cons testName remaining =>
      rw [hrest] at hremaining
      simp only [nextTest, hrest]
      have hget : cfg.tests[s.round]? = some testName := by
        rw [← List.head?_drop, ← hremaining]
        rfl
      have hdrop : remaining = cfg.tests.drop (s.round + 1) := by
        rw [← List.tail_drop, ← hremaining]
        rfl
      refine ⟨⟨hdrop, ?_, h.finished, h.reported, h.testResult⟩, ?_⟩
      · rintro n hn
        obtain rfl : s.round = n := Nat.succ.inj hn
        exact hget
      · refine ⟨⟨hraised, ?_, congrArg (· + 1) hfinished⟩, hthings, hcertificates⟩
        rcases hcertificate with ⟨hzero, hnone⟩ | hsome
        · exact .inl ⟨congrArg (· + 1) hzero, hnone⟩
        · exact .inr ⟨s.round, hsome, rfl⟩

/-- The service has finished the test. -/
def State.finish (s : State) (status : String) : State :=
  { s with
    testResult := s.testResult.set s.testName status
    finished := s.finished ++ [(s.testName, status)] }

theorem suiteRun_cases (s : State) (run : SuiteRun) :
    suiteRun s run = s.call .getSuiteRun ∨ suiteRun s run = s.call .runTest ∨
      (run.status ≠ "PENDING" ∧ run.status ≠ "RUNNING") ∧
        (suiteRun s run = (s.finish run.status).call .processLogs ∨
          suiteRun s run =
            (s.finish run.status).call (.cleanup .detachThingPrincipal .tested)) := by
  unfold suiteRun
  split
  · split
    next => exact .inl rfl
    next hpending =>
      push Not at hpending
      split
      next => split <;> simp
      next hrunning =>
        refine .inr (.inr ⟨⟨hpending.1, hrunning⟩, ?_⟩)
        split
        · exact .inl rfl
        · exact .inr rfl
  · exact .inl rfl

theorem Progress.finish (h : Progress cfg s) (hlength : s.finished.length + 1 = s.round)
    {status : String} (hstatus : status ≠ "PENDING" ∧ status ≠ "RUNNING") :
    Progress cfg (s.finish status) where
  remaining := h.remaining
  testName := h.testName
  finished := by
    have hget := h.testName s.finished.length hlength.symm
    simp [State.finish, h.finished, List.take_add_one, hget]
  reported := by
    rintro test htest
    rcases List.mem_append.mp htest with hbefore | hlast
    · exact h.reported test hbefore
    · obtain rfl := List.mem_singleton.mp hlast
      exact hstatus
  testResult := by
    simp only [State.finish]
    rw [record_append, h.testResult]

theorem inv_suiteRun (h : Progress cfg s) (hcalling : Calling s .getSuiteRun) (run : SuiteRun) :
    Progress cfg (suiteRun s run) ∧ Place cfg (suiteRun s run) := by
  obtain ⟨htesting, hlength⟩ := hcalling
  have hdone : (s.finished ++ [(s.testName, run.status)]).length = s.round := by
    rw [List.length_append]
    exact hlength
  obtain heq | heq | ⟨hstatus, hfinish⟩ := suiteRun_cases s run
  · rw [heq]
    exact ⟨h.same ⟨rfl, rfl, rfl, rfl, rfl⟩, htesting.goto _, hlength⟩
  · rw [heq]
    exact ⟨h.same ⟨rfl, rfl, rfl, rfl, rfl⟩, htesting.goto _, hlength⟩
  · have htesting : Testing (s.finish run.status) :=
      ⟨htesting.raised, htesting.certificate, htesting.things, htesting.certificates⟩
    have hprogress := h.finish hlength hstatus
    rcases hfinish with heq | heq
    · rw [heq]
      exact ⟨hprogress.same ⟨rfl, rfl, rfl, rfl, rfl⟩, htesting.goto _, hdone⟩
    · rw [heq]
      exact ⟨hprogress.same ⟨rfl, rfl, rfl, rfl, rfl⟩, htesting.deleting.goto _,
        htesting.raised, hdone⟩

/-! ## Runs -/

def Inv (cfg : Config) (s : State) : Prop := Progress cfg s ∧ Place cfg s

theorem inv_init : Inv cfg (init cfg) :=
  ⟨⟨rfl, by simp [init], rfl, by simp [init], rfl⟩, rfl, rfl, rfl, rfl, .inl ⟨rfl, rfl⟩⟩

theorem calling_of_place {call : Call} (h : Place cfg s) (hpc : s.pc = .calling call) :
    Calling s call := by
  simpa only [Place, hpc] using h

theorem inv_step {a : Action} (h : Inv cfg s) (hs : step cfg s a = some s') : Inv cfg s' := by
  obtain ⟨hprogress, hplace⟩ := h
  cases a with
  | nextTest =>
      simp only [step, Option.ite_none_right_eq_some] at hs
      obtain ⟨hpc, hs⟩ := hs
      cases hs
      exact inv_nextTest hprogress hplace hpc
  | returns =>
      simp only [step] at hs
      split at hs
      next call hpc =>
        exact ⟨hprogress.same ((same_affect s call).trans (same_returns hs)),
          place_returns (calling_of_place hplace hpc) hs⟩
      next => cases hs
  | raises effect =>
      simp only [step] at hs
      split at hs
      next call hpc =>
        cases hs
        have hcalling := calling_of_place hplace hpc
        cases effect with
        | false => exact ⟨hprogress.same (same_throws s call), place_throws hcalling (.inl rfl)⟩
        | true =>
            exact ⟨hprogress.same ((same_affect s call).trans (same_throws _ call)),
              place_throws hcalling (.inr rfl)⟩
      next => cases hs
  | noShadow =>
      simp only [step, Option.ite_none_right_eq_some] at hs
      obtain ⟨hpc, hs⟩ := hs
      cases hs
      obtain ⟨htesting, hlength⟩ := calling_of_place hplace hpc
      exact ⟨hprogress.same ⟨rfl, rfl, rfl, rfl, rfl⟩, htesting.goto _, hlength⟩
  | suiteRun run =>
      simp only [step, Option.ite_none_right_eq_some] at hs
      obtain ⟨hpc, hs⟩ := hs
      cases hs
      exact inv_suiteRun hprogress (calling_of_place hplace hpc) run

/-- What a run of the tests has done, wherever it stands. -/
structure TestRunSpec (cfg : Config) (s : State) : Prop where
  things : s.things = [] ∨ s.things = [s.round]
  certificates : s.certificates = [] ∨ s.certificates = [s.round]
  finished : s.finished.map Prod.fst = cfg.tests.take s.finished.length
  reported : ∀ test ∈ s.finished, test.2 ≠ "PENDING" ∧ test.2 ≠ "RUNNING"
  testResult : ∀ name, s.testResult.lookup name = s.finished.reverse.lookup name
  ending : ∀ outcome, s.pc = .ended outcome → Ending cfg s outcome

theorem testRun_run {as : List Action} (hrun : run (step cfg) (init cfg) as = some s) :
    TestRunSpec cfg s := by
  obtain ⟨hprogress, hplace⟩ : Inv cfg s :=
    run_invariant (fun _ _ _ h hs => inv_step h hs) hrun inv_init
  obtain ⟨hthings, hcertificates⟩ := tidy_of_place hplace
  refine ⟨hthings, hcertificates, hprogress.finished, hprogress.reported, ?_, ?_⟩
  · intro name
    rw [hprogress.testResult, lookup_record, List.lookup_nil, Option.or_none]
  · intro outcome hpc
    simpa only [Place, hpc] using hplace

def twoTests : Config where
  tests := ["MQTTConnect", "MQTTPublish"]
  testSuiteIds := [("MQTTConnect", "1"), ("MQTTPublish", "2")]
  testExePath := [("MQTTConnect", "mqtt_connect.py"), ("MQTTPublish", "mqtt_publish.py")]

/-- The first test passes, and `attach_thing_principal` raises for the second. -/
def attachFails : List Action :=
  [.nextTest] ++ List.replicate 6 .returns ++ [.noShadow] ++ List.replicate 3 .returns ++
    [.suiteRun ⟨"PENDING", []⟩, .suiteRun ⟨"RUNNING", [["RUNNING"]]⟩, .returns,
      .suiteRun ⟨"PASS", [["PASS"]]⟩] ++ List.replicate 6 .returns ++
    [.nextTest] ++ List.replicate 4 .returns ++ [.raises true] ++ List.replicate 6 .returns

/-- The handler has deleted the certificate of the first test once more, and the second stays. -/
theorem testRun_run_attachFails :
    ∃ s, run (step twoTests) (init twoTests) attachFails = some s ∧
      s.pc = .ended (.exit (-1)) ∧ s.certificates = [2] ∧ TestRunSpec twoTests s := by
  have hrun : (run (step twoTests) (init twoTests) attachFails).map
      (fun s => (s.pc, s.certificates)) = some (.ended (.exit (-1)), [2]) := by decide
  obtain ⟨s, hs, hend⟩ := Option.map_eq_some_iff.mp hrun
  obtain ⟨hpc, hcertificates⟩ := Prod.mk.inj hend
  exact ⟨s, hs, hpc, hcertificates, testRun_run hs⟩

end IotCore.DeviceAdvisor
