import IotCore.Model.Greengrass.Connect
import IotCore.Verification.EventStream.AuthToken
import IotCore.Verification.EventStream.Outcomes

/-! # Calls of `connect`

A caller gets a client only of a connection that was accepted with its token. If it gets an
exception instead, nobody can close the connection any more. -/

namespace IotCore.Greengrass.Connect

open Machine EventStream
open EventStream.Connection (Exn)
open JsonText (Str)

variable {args : Args}

/-! ## Steps -/

/-- The actions of the connection. -/
def connectionActions (args : Args) (as : List Action) : List Connection.Action :=
  as.filterMap fun
    | .call native =>
        if args.socket.isSome ∧ args.token.isSome then some (.connect native) else none
    | .connection a => some a
    | _ => none

inductive StepCases (args : Args) (s : State) : Action → State → Prop where
  | keyError {native} (hcaller : s.caller = .starting)
      (hargs : args.socket = none ∨ args.token = none) :
      StepCases args s (.call native) { s with caller := .raised .keyError }
  | called {native connection f} (hcaller : s.caller = .starting)
      (hargs : args.socket.isSome = true ∧ args.token.isSome = true)
      (h : Connection.connect s.connection native = (connection, .ok f)) :
      StepCases args s (.call native) { connection, caller := .waiting }
  | refused {native connection e} (hcaller : s.caller = .starting)
      (hargs : args.socket.isSome = true ∧ args.token.isSome = true)
      (h : Connection.connect s.connection native = (connection, .error e)) :
      StepCases args s (.call native) { connection, caller := .raised (.connection e) }
  | returned (hcaller : s.caller = .waiting)
      (h : (s.connection.future (.connect 1)).outcome = some (.ok ())) :
      StepCases args s .result { s with caller := .returned }
  | failed {e} (hcaller : s.caller = .waiting)
      (h : (s.connection.future (.connect 1)).outcome = some (.error e)) :
      StepCases args s .result { s with caller := .raised (.connection e) }
  | timedOut (hcaller : s.caller = .waiting) :
      StepCases args s .timeout { s with caller := .raised .timeoutError }
  | connection {a token connection} (htoken : args.token = some token)
      (hallowed : allowed token s a = true)
      (h : Connection.step true s.connection a = some connection) :
      StepCases args s (.connection a) { s with connection }

theorem step_cases {s s' : State} {a : Action} (hs : step args s a = some s') :
    StepCases args s a s' := by
  cases a with
  | call native =>
      simp only [step] at hs
      split at hs
      · rename_i hcaller hsocket htoken
        have hargs : args.socket.isSome = true ∧ args.token.isSome = true := by
          simp [hsocket, htoken]
        split at hs <;> rename_i h <;> cases hs
        · exact .called hcaller hargs h
        · exact .refused hcaller hargs h
      · rename_i hcaller hnot
        cases hs
        refine .keyError hcaller ?_
        cases hsocket : args.socket with
        | none => exact .inl rfl
        | some socket =>
            cases htoken : args.token with
            | none => exact .inr rfl
            | some token => exact (hnot _ _ hsocket htoken).elim
      · cases hs
  | result =>
      simp only [step] at hs
      split at hs <;> rename_i hcaller h <;> cases hs
      · exact .returned hcaller h
      · exact .failed hcaller h
  | timeout =>
      simp only [step] at hs
      split at hs <;> rename_i hcaller h <;> cases hs
      exact .timedOut hcaller
  | connection a =>
      simp only [step] at hs
      split at hs
      · cases hs
      · rename_i htoken
        rw [Option.ite_none_right_eq_some, Option.map_eq_some_iff] at hs
        obtain ⟨hallowed, connection, h, rfl⟩ := hs
        exact .connection htoken hallowed h

/-! ## Runs -/

/-- No attempt was started. -/
def Idle (connection : Connection.State) : Prop :=
  ∀ n, (connection.attempt n).pc = .unused

/-- Without an attempt there is nothing that the connection can do. -/
theorem not_step_of_idle {token : Str} {s : State} {a : Connection.Action}
    (h : Idle s.connection) (hcaller : s.caller ≠ .returned) (hallowed : allowed token s a = true) :
    Connection.step true s.connection a = none := by
  cases a with
  | connect native => cases hallowed
  | close reason | sendProtocolMessage data messageType native | newStream native =>
      simp [allowed, hcaller] at hallowed
  | _ => simp [Connection.step, Connection.returned, Connection.raised, Connection.resume, h _]

/-- What the caller has seen. -/
def Seen (args : Args) (s : State) : Prop :=
  match s.caller with
  | .starting => s.connection = Connection.init
  | .raised .keyError =>
      s.connection = Connection.init ∧ (args.socket = none ∨ args.token = none)
  | .waiting | .raised .timeoutError => True
  | .returned => (s.connection.future (.connect 1)).outcome = some (.ok ())
  | .raised (.connection e) =>
      (s.connection.future (.connect 1)).outcome = some (.error e) ∨ Idle s.connection

structure Inv (args : Args) (as : List Action) (s : State) : Prop where
  connection : run (Connection.step true) Connection.init (connectionActions args as) =
    some s.connection
  amended : ∀ n amendment, .amended n amendment ∈ connectionActions args as →
    ∃ token, args.token = some token ∧ createStaticAuthtokenAmender token = some amendment
  seen : Seen args s
  reasoned : s.caller ≠ .returned → Connection.Reasoned s.connection.synced

theorem idle_init : Idle Connection.init := fun _ => rfl

/-- A step that leaves the connection alone. -/
theorem Inv.quiet {as : List Action} {s s' : State} {a : Action} (h : Inv args as s)
    (ha : connectionActions args [a] = []) (hconnection : s'.connection = s.connection)
    (hcaller : s.caller ≠ .returned) (hseen : Seen args s') : Inv args (as ++ [a]) s' := by
  have hactions : connectionActions args (as ++ [a]) = connectionActions args as := by
    rw [connectionActions, List.filterMap_append]
    exact (congrArg _ ha).trans (List.append_nil _)
  refine ⟨?_, ?_, hseen, fun _ => ?_⟩
  · rw [hactions, hconnection]
    exact h.connection
  · rw [hactions]
    exact h.amended
  · rw [hconnection]
    exact h.reasoned hcaller

theorem Inv.called {as : List Action} {s : State} {native : Option Exn} (h : Inv args as s)
    (hargs : args.socket.isSome = true ∧ args.token.isSome = true)
    (hcaller : s.caller = .starting) {caller : Caller}
    (hseen : Seen args ⟨caller, (Connection.connect s.connection native).1⟩) :
    Inv args (as ++ [.call native]) ⟨caller, (Connection.connect s.connection native).1⟩ := by
  have hinit : s.connection = Connection.init := by
    have hs := h.seen
    rwa [Seen, hcaller] at hs
  have hactions : connectionActions args (as ++ [.call native]) =
      connectionActions args as ++ [.connect native] := by
    rw [connectionActions, List.filterMap_append]
    simp [connectionActions, hargs]
  refine ⟨?_, ?_, hseen, fun _ => ?_⟩
  · rw [hactions, run_append_eq_some]
    exact ⟨s.connection, h.connection, run_singleton_eq_some.mpr rfl⟩
  · intro n amendment hmem
    rw [hactions] at hmem
    exact h.amended n amendment (by simpa using hmem)
  · rw [hinit]
    cases native <;> simp [Connection.Reasoned, Connection.connect, Connection.init]

/-- A step of the connection that does not wait for the caller. -/
theorem Inv.joined {as : List Action} {s : State} {a : Connection.Action} {token : Str}
    {connection : Connection.State} (h : Inv args as s) (htoken : args.token = some token)
    (hallowed : allowed token s a = true)
    (hstep : Connection.step true s.connection a = some connection) :
    Inv args (as ++ [.connection a]) { s with connection } := by
  have hidle : s.caller ≠ .returned → ¬Idle s.connection := by
    intro hcaller hidle
    rw [not_step_of_idle hidle hcaller hallowed] at hstep
    cases hstep
  have hkeeps := Connection.keeps_step hstep
  have hactions : connectionActions args (as ++ [.connection a]) =
      connectionActions args as ++ [a] := by
    rw [connectionActions, List.filterMap_append]
    rfl
  refine ⟨?_, ?_, ?_, fun hcaller => ?_⟩
  · rw [hactions, run_append_eq_some]
    exact ⟨s.connection, h.connection, run_singleton_eq_some.mpr hstep⟩
  · intro n amendment hmem
    rw [hactions, List.mem_append, List.mem_singleton] at hmem
    rcases hmem with hmem | rfl
    · exact h.amended n amendment hmem
    · exact ⟨token, htoken, by simpa [allowed] using hallowed⟩
  · have hseen := h.seen
    rw [Seen] at hseen ⊢
    cases hcaller : s.caller with
    | starting =>
        rw [hcaller] at hseen
        exact absurd (hseen ▸ idle_init) (hidle (by simp [hcaller]))
    | waiting => trivial
    | returned =>
        rw [hcaller] at hseen
        exact hkeeps _ _ hseen
    | raised e =>
        rw [hcaller] at hseen
        cases e with
        | keyError => exact absurd (hseen.1 ▸ idle_init) (hidle (by simp [hcaller]))
        | timeoutError => trivial
        | connection e =>
            rcases hseen with herror | hnone
            · exact .inl (hkeeps _ _ herror)
            · exact absurd hnone (hidle (by simp [hcaller]))
  · have hclose : ∀ reason, a ≠ .close reason := by
      rintro reason rfl
      exact hcaller (by simpa [allowed] using hallowed)
    exact Connection.reasoned_step (Connection.inv_run h.connection) hstep hclose
      (h.reasoned hcaller)

theorem inv_step {as : List Action} {s s' : State} {a : Action} (h : Inv args as s)
    (hs : step args s a = some s') : Inv args (as ++ [a]) s' := by
  have hseen := h.seen
  cases step_cases hs with
  | @keyError native hcaller hargs =>
      rw [Seen, hcaller] at hseen
      have hnot : ¬(args.socket.isSome = true ∧ args.token.isSome = true) := by
        rcases hargs with hnone | hnone <;> simp [hnone]
      exact h.quiet (by simp [connectionActions, hnot]) rfl (by simp [hcaller]) ⟨hseen, hargs⟩
  | @called native connection f hcaller hargs hconnect =>
      have hfst := congrArg Prod.fst hconnect
      obtain rfl : (Connection.connect s.connection native).1 = connection := hfst
      exact h.called hargs hcaller trivial
  | @refused native connection e hcaller hargs hconnect =>
      rw [Seen, hcaller] at hseen
      have hfst := congrArg Prod.fst hconnect
      obtain rfl : (Connection.connect s.connection native).1 = connection := hfst
      refine h.called hargs hcaller (.inr ?_)
      rw [hseen] at hconnect ⊢
      cases native with
      | none => simp [Connection.connect, Connection.init] at hconnect
      | some e => exact idle_init
  | returned hcaller hok => exact h.quiet rfl rfl (by simp [hcaller]) hok
  | failed hcaller herror => exact h.quiet rfl rfl (by simp [hcaller]) (.inl herror)
  | timedOut hcaller => exact h.quiet rfl rfl (by simp [hcaller]) trivial
  | connection htoken hallowed hstep => exact h.joined htoken hallowed hstep

theorem inv_run {as : List Action} {s : State} (h : run (step args) {} as = some s) :
    Inv args as s := by
  refine run_history (I := Inv args) (fun _ _ _ _ hI hs => inv_step hI hs) h ?_
  exact ⟨rfl, by simp [connectionActions], rfl, by simp [Connection.Reasoned, Connection.init]⟩

/-! ## The contract -/

/-- What a caller gets, and what happens to a connection that has no owner. -/
structure ConnectSpec (args : Args) (as : List Action) (s : State) : Prop where
  /-- a client comes with a connection that was accepted after CONNECT with the token -/
  returned : s.caller = .returned →
    Connection.Acked true (connectionActions args as) 1 ∧
      ∃ token payload rest, args.token = some token ∧
        (s.connection.attempt 1).sent =
          .message .connect (some [Connection.versionHeader]) (some payload) :: rest ∧
        (CarriesToken token payload ↔ ∀ p ∈ token, Plain p)
  failed : ∀ e, s.caller = .raised (.connection e) →
    ¬Connection.Acked true (connectionActions args as) 1
  keyError : s.caller = .raised .keyError →
    s.connection = Connection.init ∧ (args.socket = none ∨ args.token = none)
  /-- nobody can close it for no reason, also after a timeout -/
  unowned : s.caller ≠ .returned → Connection.Reasoned s.connection.synced
  /-- a caller does not wait for an attempt that is over -/
  answered : s.caller = .waiting → (s.connection.attempt 1).pc = .ended →
    ∃ s', step args s .result = some s'

theorem Inv.returned {as : List Action} {s : State} (h : Inv args as s)
    (hcaller : s.caller = .returned) :
    (s.connection.attempt 1).accepted = true ∧
      ∃ token payload rest, args.token = some token ∧
        (s.connection.attempt 1).sent =
          .message .connect (some [Connection.versionHeader]) (some payload) :: rest ∧
        (CarriesToken token payload ↔ ∀ p ∈ token, Plain p) := by
  have hok : (s.connection.future (.connect 1)).outcome = some (.ok ()) := by
    have hseen := h.seen
    rwa [Seen, hcaller] at hseen
  have hacc : (s.connection.attempt 1).accepted = true :=
    ((Connection.inv_run h.connection).accepted_iff_outcome Nat.one_ne_zero hok).mpr rfl
  refine ⟨hacc, ?_⟩
  obtain ⟨_, rest, hsent⟩ := (Connection.sends_run h.connection 1).accepted hacc
  have hsent : (s.connection.attempt 1).sent = _ := hsent
  obtain ⟨amendment, hmem, heq⟩ := (Connection.carries_run h.connection 1).sent _
    (by rw [hsent, List.head?_cons])
  obtain ⟨token, htoken, hamendment⟩ := h.amended 1 amendment hmem
  rcases createStaticAuthtokenAmender_cases token with hnone | ⟨cs, rfl, hcs⟩
  · rw [hnone] at hamendment
    cases hamendment
  · rw [hcs] at hamendment
    cases hamendment
    refine ⟨_, _, rest, htoken, by rw [hsent, heq]; rfl, ?_⟩
    rw [carriesToken_iff]
    simp [JsonText.Str.ofChars, Plain]

theorem Inv.failed {as : List Action} {s : State} (h : Inv args as s) {e : Exn}
    (hcaller : s.caller = .raised (.connection e)) :
    (s.connection.attempt 1).accepted = false := by
  have hI := Connection.inv_run h.connection
  have hseen := h.seen
  rw [Seen, hcaller] at hseen
  rcases hseen with herror | hidle
  · have hacc := hI.accepted_iff_outcome Nat.one_ne_zero herror
    simpa using hacc
  · have hpast := hI.past (n := 1) (by simp [hidle 1, Connection.Pc.At])
    simp only [Connection.Past, Connection.State.view, hidle 1] at hpast
    rw [hpast.1]

theorem connect_run {as : List Action} {s : State} (h : run (step args) {} as = some s) :
    ConnectSpec args as s := by
  have hI := inv_run h
  refine ⟨fun hcaller => ?_, fun e hcaller => ?_, fun hcaller => ?_, hI.reasoned,
    fun hcaller hended => ?_⟩
  · obtain ⟨hacc, hsent⟩ := hI.returned hcaller
    exact ⟨(Connection.accepted_iff hI.connection).mp hacc, hsent⟩
  · rw [← Connection.accepted_iff hI.connection, hI.failed hcaller]
    simp
  · have hseen := hI.seen
    rwa [Seen, hcaller] at hseen
  · obtain ⟨hout, _, _⟩ := (Connection.inv_run hI.connection).ended hended
    simp only [step, hcaller, hout]
    cases Connection.connectOutcome (s.connection.attempt 1).accepted
        (s.connection.attempt 1).failure <;> exact ⟨_, rfl⟩

/-- A token in the environment, and no time left when CONNECT has been sent. -/
def timedOutArgs : Args where
  ipcSocket := some (.ofChars "/ipc.socket".toList)
  environ := fun variable_ => if variable_ = "SVCUID" then some (.ofChars ['a', 'b']) else none

def timedOutActions : List Action :=
  [.call none, .connection (.connectionSetup 1 none),
    .connection (.amended 1 ⟨none, some (JsonText.encodeUtf8 (payloadText ['a', 'b']))⟩),
    .connection (.sendConnect 1 none), .timeout,
    .connection (.protocolMessage 1 ⟨[], [], .connectAck, ⟨true, false⟩⟩),
    .connection (.resume 1)]

/-- The connection that nobody owns is established afterwards. -/
theorem connect_run_timeout :
    ∃ s, run (step timedOutArgs) {} timedOutActions = some s ∧
      s.caller = .raised .timeoutError ∧ s.connection.synced.state = .connected ∧
      ConnectSpec timedOutArgs timedOutActions s :=
  ⟨_, rfl, rfl, rfl, connect_run rfl⟩

end IotCore.Greengrass.Connect
