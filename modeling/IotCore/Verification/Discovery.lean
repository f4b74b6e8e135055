import IotCore.Library.Machine
import IotCore.Model.Discovery
import IotCore.Verification.Mqtt.Events

/-! # Calls of `discover`

However the response is cut into chunks, and whenever the user cancels, the future is settled
once, by what came first: the end of the call or the cancellation. -/

namespace IotCore.Discovery

open Machine
open Mqtt (Obj Builtins Carries Unreadable unreadable_iff)
open Json (PairedUtf8)
open CancellableFuture

variable {ε : Type}

/-! ## What the actions say -/

def Act.isCancel : Act ε → Bool
  | .cancel => true
  | _ => false

def Act.isAdded : Act ε → Bool
  | .added => true
  | _ => false

def Act.bytes : Act ε → List UInt8
  | .chunk bytes => bytes
  | _ => []

def Act.failure : Act ε → Option ε
  | .connected (.error e) | .requested (.error e) => some e
  | _ => none

def Act.completion : Act ε → Option (Except ε Int)
  | .completed outcome => some outcome
  | _ => none

/-- The bytes of the body. -/
def bytes (as : List (Act ε)) : List UInt8 := as.flatMap Act.bytes

/-- What the connection or the request failed with. -/
def failure (as : List (Act ε)) : Option ε := as.findSome? Act.failure

/-- How the HTTP stream ended. -/
def completion (as : List (Act ε)) : Option (Except ε Int) := as.findSome? Act.completion

/-- The stream has ended so, and somebody was told. -/
def Answers (as : List (Act ε)) (outcome : Except ε Int) : Prop :=
  failure as = none ∧ as.any Act.isAdded = true ∧ completion as = some outcome

section

variable (B : Builtins)

/-- What `on_request_complete` gives to a future that is pending. -/
def answer (responseBody : List UInt8) : Except ε Int → Except (Error ε) Obj
  | .error e => .error (.http e)
  | .ok responseCode =>
      if responseCode = 200 then readResponse B responseBody
      else .error (discoveryException responseCode)

/-- What the call comes to if nobody cancels. -/
def verdict (as : List (Act ε)) : Option (Except (Error ε) Obj) :=
  match failure as with
  | some e => some (.error (.http e))
  | none => if as.any Act.isAdded then (completion as).map (answer B (bytes as)) else none

end

variable {B : Builtins} {as : List (Act ε)} {a : Act ε} {s s' : State ε}

@[simp] theorem bytes_append : bytes (as ++ [a]) = bytes as ++ a.bytes := by
  simp [bytes]

@[simp] theorem failure_append : failure (as ++ [a]) = (failure as).or a.failure := by
  simp [failure]

@[simp] theorem completion_append :
    completion (as ++ [a]) = (completion as).or a.completion := by
  simp [completion]

/-! ## Steps -/

theorem onRequestComplete_eq (s : State ε) (outcome : Except ε Int) :
    onRequestComplete B s outcome =
      { s with future := (s.future.set (answer B s.responseBody outcome)).getD s.future } := by
  cases outcome with
  | error e => rfl
  | ok responseCode =>
      simp only [onRequestComplete, answer]
      split
      · cases readResponse B s.responseBody with
        | error e => rfl
        | ok x => cases hfuture : s.future <;> simp [State.setException, CancellableFuture.set, hfuture]
      · rfl

/-- What holds after the actions. -/
structure Inv (B : Builtins) (as : List (Act ε)) (s : State ε) : Prop where
  bytes : s.responseBody = bytes as
  completion : s.completionFuture = completion as
  added : as.any Act.isAdded = true ↔ s.pc = .added
  failure : failure as ≠ none ↔ s.pc = .failed
  future : s.future = settled Act.isCancel (verdict B) as

/-- A step that is no cancellation leaves the verdict as it is, or brings it. -/
inductive Decides (B : Builtins) (as : List (Act ε)) (a : Act ε) (s s' : State ε) : Prop where
  | same (hverdict : verdict B (as ++ [a]) = verdict B as) (hfuture : s'.future = s.future)
  | set {outcome} (hnone : verdict B as = none) (hverdict : verdict B (as ++ [a]) = some outcome)
      (hfuture : s'.future = (s.future.set outcome).getD s.future)

theorem Decides.future (h : Decides B as a s s') (ha : a.isCancel = false)
    (hs : s.future = settled Act.isCancel (verdict B) as) :
    s'.future = settled Act.isCancel (verdict B) (as ++ [a]) := by
  cases h with
  | same hverdict hfuture => rw [hfuture, hs, settled_same ha hverdict]
  | set hnone hverdict hfuture => rw [hfuture, hs, settled_set ha hnone hverdict]

theorem Inv.none_of_pc (h : Inv B as s) (hadded : s.pc ≠ .added) (hfailed : s.pc ≠ .failed) :
    Discovery.failure as = none ∧ as.any Act.isAdded = false ∧ verdict B as = none := by
  have hfailure : Discovery.failure as = none := by
    by_contra hne
    exact hfailed (h.failure.mp hne)
  have hany : as.any Act.isAdded = false := by
    rw [← Bool.not_eq_true, h.added]
    exact hadded
  exact ⟨hfailure, hany, by simp [verdict, hfailure, hany]⟩

theorem Inv.none_of_added (h : Inv B as s) (hadded : s.pc = .added) :
    Discovery.failure as = none ∧ as.any Act.isAdded = true := by
  refine ⟨?_, h.added.mpr hadded⟩
  by_contra hne
  have hfailed := h.failure.mp hne
  rw [hadded] at hfailed
  cases hfailed

theorem Inv.next (h : Inv B as s) (ha : a.isCancel = false)
    (hbytes : s'.responseBody = s.responseBody ++ a.bytes)
    (hcompletion : s'.completionFuture = s.completionFuture.or a.completion)
    (hadded : s'.pc = .added ↔ s.pc = .added ∨ a.isAdded = true)
    (hfailed : s'.pc = .failed ↔ s.pc = .failed ∨ a.failure ≠ none)
    (hdecides : Decides B as a s s') : Inv B (as ++ [a]) s' where
  bytes := by rw [hbytes, h.bytes, bytes_append]
  completion := by rw [hcompletion, h.completion, completion_append]
  added := by simp [hadded, ← h.added]
  failure := by
    rw [hfailed, ← h.failure, failure_append]
    cases Discovery.failure as <;> simp
  future := hdecides.future ha h.future

/-- The connection or the request fails. -/
theorem Inv.fail (h : Inv B as s) {e : ε} (hfailure : a.failure = some e)
    (ha : a.isCancel = false) (hbytes : a.bytes = []) (hcompletion : a.completion = none)
    (hadded : a.isAdded = false) (hpc : s.pc ≠ .added ∧ s.pc ≠ .failed) :
    Inv B (as ++ [a]) { s.setException (.http e) with pc := .failed } := by
  obtain ⟨hnofailure, _, hnone⟩ := h.none_of_pc hpc.1 hpc.2
  refine h.next ha ?_ ?_ ?_ ?_ (.set hnone ?_ rfl)
  · simp [hbytes, State.setException]
  · simp [hcompletion, State.setException]
  · simp [hpc, hadded]
  · simp [hfailure]
  · simp [verdict, hnofailure, hfailure]

/-- The connection or the request succeeds. -/
theorem Inv.proceed (h : Inv B as s) (hfailure : a.failure = none) (ha : a.isCancel = false)
    (hbytes : a.bytes = []) (hcompletion : a.completion = none) (hadded : a.isAdded = false)
    (hpc : s.pc ≠ .added ∧ s.pc ≠ .failed) {pc : Pc} (hpc' : pc ≠ .added ∧ pc ≠ .failed) :
    Inv B (as ++ [a]) { s with pc } := by
  obtain ⟨hnofailure, hany, _⟩ := h.none_of_pc hpc.1 hpc.2
  refine h.next ha ?_ ?_ ?_ ?_ (.same ?_ rfl)
  · simp [hbytes]
  · simp [hcompletion]
  · simp [hpc, hpc', hadded]
  · simp [hpc, hpc', hfailure]
  · simp [verdict, hnofailure, hfailure, hany, hadded]

theorem inv_step (h : Inv B as s) (hs : step B s a = some s') : Inv B (as ++ [a]) s' := by
  cases a with
  | connected outcome | requested outcome =>
      simp only [step, Option.ite_none_right_eq_some] at hs
      obtain ⟨hpc, hs⟩ := hs
      cases outcome <;> cases hs
      · exact h.fail rfl rfl rfl rfl rfl (by simp [hpc])
      · exact h.proceed rfl rfl rfl rfl rfl (by simp [hpc]) (by decide)
  | added =>
      simp only [step, Option.ite_none_right_eq_some] at hs
      obtain ⟨hpc, hs⟩ := hs
      obtain ⟨hfailure, hany, hnone⟩ := h.none_of_pc (by simp [hpc]) (by simp [hpc])
      split at hs <;> rename_i hcompletion
      · cases hs
        refine h.next rfl (List.append_nil _).symm Option.or_none.symm ?_ ?_ (.same ?_ rfl)
        · simp [Act.isAdded]
        · simp [hpc, Act.failure]
        · simp [verdict, hfailure, hany, Act.failure, Act.completion, ← h.completion, hcompletion]
      · rw [onRequestComplete_eq] at hs
        cases hs
        refine h.next rfl (List.append_nil _).symm Option.or_none.symm ?_ ?_
          (.set hnone ?_ rfl)
        · simp [Act.isAdded]
        · simp [hpc, Act.failure]
        · simp [verdict, hfailure, Act.failure, Act.isAdded, Act.completion, Act.bytes,
            ← h.completion, ← h.bytes, hcompletion]
  | chunk bytes =>
      simp only [step, Option.ite_none_right_eq_some] at hs
      obtain ⟨⟨hpc, hcompletion⟩, hs⟩ := hs
      rw [Option.isNone_iff_eq_none] at hcompletion
      cases hs
      refine h.next rfl rfl Option.or_none.symm ?_ ?_ (.same ?_ rfl)
      · simp [Act.isAdded]
      · simp [Act.failure]
      · simp [verdict, Act.failure, Act.isAdded, Act.completion, ← h.completion, hcompletion]
  | completed outcome =>
      simp only [step] at hs
      split at hs
      · cases hs
      · rename_i hcompletion
        replace hcompletion : s.completionFuture = none := by simpa using hcompletion
        split at hs
        · rename_i hpc
          cases hs
          obtain ⟨hfailure, hany, hnone⟩ := h.none_of_pc (by simp [hpc]) (by simp [hpc])
          refine h.next rfl (List.append_nil _).symm ?_ ?_ ?_ (.same ?_ rfl)
          · simp [hcompletion, Act.completion]
          · simp [Act.isAdded]
          · simp [Act.failure]
          · simp [verdict, hfailure, hany, Act.failure, Act.isAdded]
        · rename_i hpc
          rw [onRequestComplete_eq] at hs
          cases hs
          obtain ⟨hfailure, hany⟩ := h.none_of_added hpc
          refine h.next rfl (List.append_nil _).symm ?_ ?_ ?_ (.set ?_ ?_ rfl)
          · simp [hcompletion, Act.completion]
          · simp [Act.isAdded]
          · simp [Act.failure]
          · simp [verdict, hfailure, hany, ← h.completion, hcompletion]
          · simp [verdict, hfailure, hany, Act.failure, Act.completion, Act.bytes,
              ← h.completion, ← h.bytes, hcompletion]
        · cases hs
  | cancel =>
      cases hs
      refine ⟨?_, ?_, ?_, ?_, ?_⟩
      · simp [h.bytes, Act.bytes]
      · simp [h.completion, Act.completion]
      · simpa [Act.isAdded] using h.added
      · simpa [Act.failure] using h.failure
      · rw [settled_cancel rfl, h.future]

theorem inv_run (hrun : run (step B) {} as = some s) : Inv B as s :=
  run_history (I := Inv B) (fun _ _ _ _ h hs => inv_step h hs) hrun
    ⟨rfl, rfl, by simp, by simp [Discovery.failure], rfl⟩

/-! ## Outcomes -/

theorem readResponse_eq_ok {responseBody : List UInt8} {x : Obj} :
    (readResponse B responseBody : Except (Error ε) Obj) = .ok x ↔
      Carries B discoverResponse responseBody x := by
  rw [← Mqtt.callbackWrapper_eq_some, readResponse, Mqtt.callbackWrapper]
  cases responseBody.toByteArray.utf8Decode? with
  | none => simp
  | some payloadStr =>
      cases hloads : Json.loads B.toInterpreter payloadStr.toList with
      | none => simp [hloads]
      | some payload =>
          cases hpayload : Mqtt.fromPayload B discoverResponse payload <;>
            simp [hloads, hpayload, Except.mapError]

/-- The errors of a body that cannot be read. -/
def Error.isUnreadable : Error ε → Bool
  | .unicodeDecodeError | .jsonDecodeError | .builtin _ => true
  | _ => false

theorem readResponse_eq_error {responseBody : List UInt8} {e : Error ε}
    (h : readResponse B responseBody = .error e) : e.isUnreadable = true := by
  rw [readResponse] at h
  split at h
  · cases h
    rfl
  · split at h
    · cases h
      rfl
    · rename_i payload _
      cases hpayload : Mqtt.fromPayload B discoverResponse payload <;>
        simp [hpayload, Except.mapError] at h
      subst h
      rfl

theorem verdict_eq_some {outcome : Except (Error ε) Obj} :
    verdict B as = some outcome ↔
      (∃ e, failure as = some e ∧ outcome = .error (.http e)) ∨
      ∃ o, Answers as o ∧ outcome = answer B (bytes as) o := by
  rw [verdict]
  cases hfailure : failure as with
  | some e => simp [Answers, hfailure, @eq_comm _ outcome]
  | none =>
      cases hany : as.any Act.isAdded <;> cases hcompletion : completion as <;>
        simp [Answers, hfailure, hany, hcompletion, @eq_comm _ outcome]

theorem verdict_eq_none :
    verdict B as = none ↔ failure as = none ∧ ∀ o, ¬Answers as o := by
  rw [verdict]
  cases hfailure : failure as with
  | some e => simp
  | none =>
      cases hany : as.any Act.isAdded <;> cases hcompletion : completion as <;>
        simp [Answers, hfailure, hany, hcompletion]

theorem answer_eq_ok {o : Except ε Int} {x : Obj} :
    answer B (bytes as) o = .ok x ↔ o = .ok 200 ∧ Carries B discoverResponse (bytes as) x := by
  cases o with
  | error e => simp [answer]
  | ok code =>
      rw [answer, Except.ok.injEq]
      split <;> simp_all [readResponse_eq_ok]

theorem carries_of_done (hrun : run (step B) {} as = some s) {x : Obj}
    (h : s.future = .done (.ok x)) :
    Carries B discoverResponse (bytes (uncancelled Act.isCancel as)) x := by
  rw [(inv_run hrun).future, settled_eq_done_iff, verdict_eq_some] at h
  rcases h with ⟨_, _, h⟩ | ⟨_, _, h⟩
  · cases h
  · exact (answer_eq_ok.mp h.symm).2

/-- What becomes of the future. The response and the errors are of the history up to the first
cancellation, the whole of it if there is none. -/
structure DiscoverSpec (B : Builtins) (as : List (Act ε)) (s : State ε) : Prop where
  pending : s.future = .pending ↔
    as.any Act.isCancel = false ∧ failure as = none ∧ ∀ o, ¬Answers as o
  cancelled : s.future = .cancelled ↔ as.any Act.isCancel = true ∧
    failure (uncancelled Act.isCancel as) = none ∧
    ∀ o, ¬Answers (uncancelled Act.isCancel as) o
  failed : ∀ e, s.future = .done (.error (.http e)) ↔
    failure (uncancelled Act.isCancel as) = some e ∨
      Answers (uncancelled Act.isCancel as) (.error e)
  response : ∀ x, s.future = .done (.ok x) ↔
    Answers (uncancelled Act.isCancel as) (.ok 200) ∧
      Carries B discoverResponse (bytes (uncancelled Act.isCancel as)) x
  unreadable : (∃ e : Error ε, e.isUnreadable = true ∧ s.future = .done (.error e)) ↔
    Answers (uncancelled Act.isCancel as) (.ok 200) ∧
      Unreadable B discoverResponse (bytes (uncancelled Act.isCancel as))
  refused : ∀ code, s.future = .done (.error (discoveryException code)) ↔
    Answers (uncancelled Act.isCancel as) (.ok code) ∧ code ≠ 200

theorem answer_eq_http {o : Except ε Int} {e : ε} :
    answer B (bytes as) o = .error (.http e) ↔ o = .error e := by
  cases o with
  | error e' => simp [answer]
  | ok code =>
      rw [answer]
      split
      · refine ⟨fun h => ?_, by simp⟩
        have hunreadable := readResponse_eq_error h
        cases hunreadable
      · simp [discoveryException]

theorem discoveryException_ne (code : Int) (e : ε) : discoveryException code ≠ .http e := by
  simp [discoveryException]

theorem answer_eq_exception {o : Except ε Int} {code : Int} :
    answer B (bytes as) o = .error (discoveryException code) ↔ o = .ok code ∧ code ≠ 200 := by
  cases o with
  | error e => simp [answer, discoveryException]
  | ok code' =>
      rw [answer]
      split
      · rename_i hcode
        refine ⟨fun h => ?_, by simp_all⟩
        have hunreadable := readResponse_eq_error h
        cases hunreadable
      · rename_i hcode
        constructor
        · intro h
          obtain rfl : code' = code := by
            simp only [discoveryException, Except.error.injEq, Error.discovery.injEq] at h
            exact h.2
          exact ⟨rfl, hcode⟩
        · rintro ⟨hcode, _⟩
          cases hcode
          rfl

theorem answer_unreadable {o : Except ε Int} (hpaired : PairedUtf8 (bytes as)) :
    (∃ e : Error ε, e.isUnreadable = true ∧ answer B (bytes as) o = .error e) ↔
      o = .ok 200 ∧ Unreadable B discoverResponse (bytes as) := by
  rw [unreadable_iff hpaired]
  cases o with
  | error e => simp [answer, Error.isUnreadable]
  | ok code =>
      rw [answer, Except.ok.injEq]
      split
      · rename_i hcode
        simp only [hcode, true_and, ← readResponse_eq_ok (ε := ε)]
        cases hread : readResponse B (bytes as) with
        | ok x => simp
        | error e => simp [readResponse_eq_error hread]
      · rename_i hcode
        simp [hcode, discoveryException, Error.isUnreadable]

theorem discover_run (hrun : run (step B) {} as = some s)
    (hpaired : PairedUtf8 (bytes (uncancelled Act.isCancel as))) : DiscoverSpec B as s := by
  have hfuture := (inv_run hrun).future
  refine ⟨?_, ?_, fun e => ?_, fun x => ?_, ?_, fun code => ?_⟩
  · rw [hfuture, settled_eq_pending_iff, verdict_eq_none]
  · rw [hfuture, settled_eq_cancelled_iff, verdict_eq_none]
  · rw [hfuture, settled_eq_done_iff, verdict_eq_some]
    simp [@eq_comm _ _ (answer _ _ _), answer_eq_http]
  · rw [hfuture, settled_eq_done_iff, verdict_eq_some]
    simp [@eq_comm _ _ (answer _ _ _), answer_eq_ok]
  · rw [hfuture]
    simp only [settled_eq_done_iff, verdict_eq_some]
    constructor
    · rintro ⟨e, he, ⟨e', _, heq⟩ | ⟨o, ho, heq⟩⟩
      · cases heq
        cases he
      · obtain ⟨rfl, hnone⟩ := (answer_unreadable hpaired).mp ⟨e, he, heq.symm⟩
        exact ⟨ho, hnone⟩
    · rintro ⟨ho, hnone⟩
      obtain ⟨e, he, heq⟩ := (answer_unreadable hpaired).mpr ⟨rfl, hnone⟩
      exact ⟨e, he, .inr ⟨.ok 200, ho, heq.symm⟩⟩
  · rw [hfuture, settled_eq_done_iff, verdict_eq_some]
    simp [@eq_comm _ _ (answer _ _ _), answer_eq_exception, discoveryException_ne]

/-- A response in two chunks, and a cancellation that is too late. -/
theorem discover_run_chunks :
    let B : Builtins := .noText
    let body := JsonText.encodeUtf8 (Json.dumps B.toInterpreter (.obj [("GGGroups", .arr [])]))
    let as : List (Act Unit) :=
      [.connected (.ok ()), .requested (.ok ()), .chunk (body.take 5), .added,
        .chunk (body.drop 5), .completed (.ok 200), .cancel]
    ∃ s, run (step B) {} as = some s ∧ DiscoverSpec B as s := by
  intro B body as
  have hbytes : bytes (uncancelled Act.isCancel as) = body := by
    change [] ++ ([] ++ (body.take 5 ++ ([] ++ (body.drop 5 ++ [])))) = body
    simp
  have hpaired : PairedUtf8 (bytes (uncancelled Act.isCancel as)) := by
    rw [hbytes]
    exact Json.pairedUtf8_dumps ⟨by simp, trivial, trivial⟩
  obtain ⟨s, hs⟩ : ∃ s, run (step B) {} as = some s := ⟨_, rfl⟩
  exact ⟨s, hs, discover_run hs hpaired⟩

end IotCore.Discovery
