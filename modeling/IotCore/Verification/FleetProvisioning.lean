import IotCore.Library.Machine
import IotCore.Model.FleetProvisioning

/-! # Provisioning runs

Whatever the connection does meanwhile, the program asks for one certificate and registers one
thing, in this order and with a token that it received, and disconnects once. The main thread
ends by itself, and a publish that fails is no reason for it to end earlier. -/

namespace IotCore.FleetProvisioning

open Machine Mqtt
open Greengrass (Exc)

variable {B : Builtins} {args : Args}

/-! ## What the main thread does -/

/-- Steps that only move the main thread, past no publish. -/
inductive Moves (args : Args) (s : State) : Pc → Prop where
  | connected (hpc : s.pc = .connecting) : Moves args s (.subscribe 0)
  | notConnected (hpc : s.pc = .connecting) : Moves args s .aborted
  | refused {k} (e) (hpc : s.pc = .subscribing k) : Moves args s (.exiting (.error e))
  | subscribed {k} (hpc : s.pc = .subscribe k) (hk : args.subscriptions[k]? = none) :
      Moves args s .request
  | notSubscribed {k} (e) (hpc : s.pc = .subscribe k) : Moves args s (.exiting (.error e))
  | notRequested (e) (hpc : s.pc = .request) : Moves args s (.exiting (.error e))
  | retest {w n} (hpc : s.pc = .poll w n) (hn : n < w.bound) (hw : s.response w = none) :
      Moves args s (.retest w n)
  | timeout {w n} (hpc : s.pc = .poll w n) (hn : ¬n < w.bound) : Moves args s w.after
  | leave {w n} (hpc : s.pc = .poll w n ∨ s.pc = .retest w n) (hw : s.response w ≠ none) :
      Moves args s w.after
  | report {w n} (hpc : s.pc = .retest w n) (hw : s.response w = none) : Moves args s (.report w n)
  | notSerializable {w n} (hpc : s.pc = .report w n) (hw : s.response w ≠ none) :
      Moves args s (.exiting (.error .notSerializable))
  | sleep {w n} (hpc : s.pc = .report w n) (hw : s.response w = none) : Moves args s (.sleep w n)
  | poll {w n} (hpc : s.pc = .sleep w n) : Moves args s (.poll w (n + 1))
  | apiDidNotSucceed (hpc : s.pc = .check) (hcertificate : s.certificate = none) :
      Moves args s (.exiting (.error .apiDidNotSucceed))
  | prepare (hpc : s.pc = .check) (hcertificate : s.certificate ≠ none) : Moves args s .prepare
  | notPrepared (e) (hpc : s.pc = .prepare) : Moves args s (.exiting (.error e))
  | register {token parameters} (hpc : s.pc = .prepare)
      (htoken : ownershipToken s.certificate = .ok token)
      (hparameters : args.templateParameters = some parameters) :
      Moves args s (.register (args.registerRequest token parameters))
  | notRegistered {request} (e) (hpc : s.pc = .register request) :
      Moves args s (.exiting (.error e))

inductive MainCases (args : Args) (s : State) : State → Prop where
  | move {pc} (h : Moves args s pc) : MainCases args s { s with pc }
  | subscribe {k} (hpc : s.pc = .subscribe k) (hk : k < args.subscriptions.length) :
      MainCases args s { s with called := k + 1, pc := .subscribing k }
  | subscribed {k} (hpc : s.pc = .subscribing k) :
      MainCases args s { s with subscribed := k + 1, pc := .subscribe (k + 1) }
  | requested {request future} (hpc : s.pc = .request)
      (hrequest : args.certificateRequest = some request) :
      MainCases args s
        { s with
          publishes := s.publishes ++ [⟨request, future, .notAdded⟩]
          pc := .addCallback .certificate }
  | registered {request future} (hpc : s.pc = .register request) :
      MainCases args s
        { s with
          publishes := s.publishes ++ [⟨request, future, .notAdded⟩], pc := .addCallback .thing }
  | added {w ps p} (hpc : s.pc = .addCallback w) (hlast : s.publishes = ps ++ [p])
      (hfuture : p.future = .pending) :
      MainCases args s
        { s with publishes := ps ++ [{ p with callback := .added }], pc := .poll w 0 }
  | told {w ps p} (hpc : s.pc = .addCallback w) (hlast : s.publishes = ps ++ [p])
      (hfuture : p.future ≠ .pending) :
      MainCases args s
        (onPublish
          { s with publishes := ps ++ [{ p with callback := .ran .main }], pc := .poll w 0 }
          .main p.future)
  | exit {e} (hpc : s.pc = .exiting e) :
      MainCases args s { FleetProvisioning.exit s .main e with pc := .waiting }
  | finish (hpc : s.pc = .waiting) (hdone : s.isSampleDone = true) :
      MainCases args s { s with pc := .finished }

theorem main_cases {s s' : State} (h : mainStep B args s = some s') : MainCases args s s' := by
  cases hpc : s.pc with
  | subscribe k =>
      simp only [mainStep, hpc] at h
      split at h
      · rename_i hk
        cases h
        exact .move (.subscribed hpc hk)
      · rename_i hk
        split at h <;> cases h
        · exact .move (.notSubscribed _ hpc)
        · exact .subscribe hpc (List.getElem?_eq_some_iff.mp hk).1
  | addCallback w =>
      simp only [mainStep, hpc, Option.map_eq_some_iff] at h
      obtain ⟨p, hlast, hadd⟩ := h
      have hps := (List.dropLast_append_getLast? p hlast).symm
      cases hfuture : p.future with
      | pending =>
          simp only [hfuture] at hadd
          subst hadd
          exact hfuture ▸ .added hpc hps hfuture
      | cancelled | done outcome =>
          simp only [hfuture] at hadd
          subst hadd
          exact hfuture ▸ .told hpc hps (by simp [hfuture])
  | poll w n =>
      simp only [mainStep, hpc] at h
      split at h <;> cases h
      · rename_i hn
        exact .move (.retest hpc hn.1 (Option.isNone_iff_eq_none.mp hn.2))
      · rename_i hn
        by_cases hlt : n < w.bound
        · refine .move (.leave (.inl hpc) fun hnone => hn ⟨hlt, by simp [hnone]⟩)
        · exact .move (.timeout hpc hlt)
  | retest w n =>
      simp only [mainStep, hpc] at h
      split at h <;> cases h
      · rename_i hw
        exact .move (.leave (.inr hpc) (Option.isSome_iff_ne_none.mp hw))
      · rename_i hw
        exact .move (.report hpc (by simpa using hw))
  | report w n =>
      simp only [mainStep, hpc] at h
      split at h <;> cases h
      · rename_i hw
        exact .move (.notSerializable hpc (Option.isSome_iff_ne_none.mp hw))
      · rename_i hw
        exact .move (.sleep hpc (by simpa using hw))
  | sleep w n =>
      simp only [mainStep, hpc] at h
      cases h
      exact .move (.poll hpc)
  | check =>
      simp only [mainStep, hpc] at h
      split at h <;> cases h
      · rename_i hw
        exact .move (.apiDidNotSucceed hpc (Option.isNone_iff_eq_none.mp hw))
      · rename_i hw
        exact .move (.prepare hpc (by simpa using hw))
  | prepare =>
      simp only [mainStep, hpc] at h
      split at h
      · cases h
        exact .move (.notPrepared _ hpc)
      · rename_i htoken
        split at h <;> cases h
        · exact .move (.notPrepared _ hpc)
        · rename_i hparameters
          exact .move (.register hpc htoken hparameters)
  | exiting e =>
      simp only [mainStep, hpc] at h
      cases h
      exact .exit hpc
  | waiting =>
      simp only [mainStep, hpc] at h
      split at h <;> cases h
      rename_i hdone
      exact .finish hpc hdone
  | connecting | subscribing k | request | register request | finished | aborted =>
      simp [mainStep, hpc] at h

theorem publish_cases (s : State) (w : Wait) (request : PublishOperation × Request)
    (reply : Reply Unit) :
    (∃ e, publish B s w request reply = { s with pc := .exiting (.error e) }) ∨
      ∃ future, publish B s w request reply =
        { s with
          publishes := s.publishes ++ [⟨request, future, .notAdded⟩], pc := .addCallback w } := by
  rw [publish]
  split
  · exact .inl ⟨_, rfl⟩
  · exact .inr ⟨_, rfl⟩

theorem publishStep_cases {s s' : State} {reply : Reply Unit}
    (h : publishStep B args s reply = some s') : MainCases args s s' := by
  cases hpc : s.pc with
  | request =>
      simp only [publishStep, hpc] at h
      cases hrequest : args.certificateRequest with
      | none =>
          simp only [hrequest] at h
          cases h
          exact .move (.notRequested _ hpc)
      | some request =>
          simp only [hrequest] at h
          cases h
          obtain ⟨e, he⟩ | ⟨future, hfuture⟩ :=
            publish_cases (B := B) s .certificate request reply
          · exact he ▸ .move (.notRequested _ hpc)
          · exact hfuture ▸ .requested hpc hrequest
  | register request =>
      simp only [publishStep, hpc] at h
      cases h
      obtain ⟨e, he⟩ | ⟨future, hfuture⟩ := publish_cases (B := B) s .thing request reply
      · exact he ▸ .move (.notRegistered _ hpc)
      · exact hfuture ▸ .registered hpc
  | connecting | subscribe k | subscribing k | addCallback w | poll w n | retest w n | report w n
  | sleep w n | check | prepare | exiting e | waiting | finished | aborted =>
      simp [publishStep, hpc] at h

def Action.isMain : Action → Bool
  | .connected _ | .subscribed _ | .main | .publish _ => true
  | _ => false

theorem isMain_cases {s s' : State} {a : Action} (ha : a.isMain = true)
    (h : step B args s a = some s') : MainCases args s s' := by
  cases a with
  | connected ok =>
      rw [step] at h
      split at h <;> cases h
      rename_i hpc
      cases ok with
      | true => exact .move (.connected hpc)
      | false => exact .move (.notConnected hpc)
  | subscribed ok =>
      rw [step] at h
      split at h
      · rename_i k hpc
        cases ok with
        | true => exact Option.some.inj h ▸ .subscribed hpc
        | false => exact Option.some.inj h ▸ .move (.refused _ hpc)
      · cases h
  | main => exact main_cases h
  | publish reply => exact publishStep_cases h
  | message k event | accepted | puback i ack | disconnected => cases ha

/-! ## `exit` -/

section

variable (s : State) (caller : Caller) (e : Exit)

@[simp] theorem exit_pc : (exit s caller e).pc = s.pc := by
  rw [exit]
  split <;> rfl

@[simp] theorem exit_subscribed : (exit s caller e).subscribed = s.subscribed := by
  rw [exit]
  split <;> rfl

@[simp] theorem exit_publishes : (exit s caller e).publishes = s.publishes := by
  rw [exit]
  split <;> rfl

@[simp] theorem exit_requests : (exit s caller e).requests = s.requests := by
  rw [State.requests, exit_publishes, State.requests]

@[simp] theorem exit_response (w : Wait) : (exit s caller e).response w = s.response w := by
  rw [exit]
  cases w <;> split <;> rfl

@[simp] theorem exit_exits : (exit s caller e).exits = s.exits ++ [(caller, e)] := by
  rw [exit]
  split <;> rfl

@[simp] theorem exit_isSampleDone : (exit s caller e).isSampleDone = s.isSampleDone := by
  rw [exit]
  split <;> rfl

@[simp] theorem exit_disconnectCalled : (exit s caller e).disconnectCalled = true := by
  rw [exit]
  split
  · assumption
  · rfl

theorem exit_disconnects :
    (exit s caller e).disconnects =
      if s.disconnectCalled then s.disconnects else s.disconnects + 1 := by
  rw [exit]
  split <;> simp_all

theorem onPublish_cases (future : ClientFuture Unit) :
    (∃ e, future = .done (.error e) ∧
        onPublish s caller future = exit s caller (.error (.publish e))) ∨
      (∀ e, future ≠ .done (.error e)) ∧ onPublish s caller future = s := by
  cases future with
  | pending | cancelled => exact .inr ⟨by simp, rfl⟩
  | done outcome =>
      cases outcome with
      | ok qos => exact .inr ⟨by simp, rfl⟩
      | error e => exact .inl ⟨e, rfl, rfl⟩

@[simp] theorem onPublish_pc (future : ClientFuture Unit) :
    (onPublish s caller future).pc = s.pc := by
  obtain ⟨e, _, h⟩ | ⟨_, h⟩ := onPublish_cases s caller future <;> simp [h]

@[simp] theorem onPublish_subscribed (future : ClientFuture Unit) :
    (onPublish s caller future).subscribed = s.subscribed := by
  obtain ⟨e, _, h⟩ | ⟨_, h⟩ := onPublish_cases s caller future <;> simp [h]

@[simp] theorem onPublish_publishes (future : ClientFuture Unit) :
    (onPublish s caller future).publishes = s.publishes := by
  obtain ⟨e, _, h⟩ | ⟨_, h⟩ := onPublish_cases s caller future <;> simp [h]

@[simp] theorem onPublish_response (future : ClientFuture Unit) (w : Wait) :
    (onPublish s caller future).response w = s.response w := by
  obtain ⟨e, _, h⟩ | ⟨_, h⟩ := onPublish_cases s caller future <;> simp [h]

@[simp] theorem onPublish_certificate (future : ClientFuture Unit) :
    (onPublish s caller future).certificate = s.certificate :=
  onPublish_response s caller future .certificate

end

/-! ## What the callbacks do -/

/-- An action that leaves the main thread and its requests as they are. -/
structure Beside (s s' : State) : Prop where
  pc : s'.pc = s.pc
  subscribed : s'.subscribed = s.subscribed
  requests : s'.requests = s.requests

/-- At most one future of a publish is completed. -/
inductive Settles (s s' : State) : Prop where
  | same (h : s'.publishes = s.publishes)
  | silent {xs p ys future} (hs : s.publishes = xs ++ p :: ys)
      (hs' : s'.publishes = xs ++ { p with future } :: ys) (hpending : p.future = .pending)
      (hfuture : future ≠ .pending)
  | told {xs p ys future} (hs : s.publishes = xs ++ p :: ys)
      (hs' : s'.publishes = xs ++ { p with future, callback := .ran .callback } :: ys)
      (hadded : p.callback = .added) (hfuture : future ≠ .pending)
      (hexits : ∀ e, future = .done (.error e) →
        (Caller.callback, Exit.error (.publish e)) ∈ s'.exits)

/-- The calls of `exit`. -/
inductive Exits (s : State) : State → Prop where
  | none {s'} (hexits : s'.exits = s.exits) (hcalled : s'.disconnectCalled = s.disconnectCalled)
      (hdisconnects : s'.disconnects = s.disconnects)
      (hdone : s'.isSampleDone = s.isSampleDone ∨ s'.isSampleDone = true ∧ 0 < s.disconnects) :
      Exits s s'
  | exit {t e} (hexits : t.exits = s.exits) (hcalled : t.disconnectCalled = s.disconnectCalled)
      (hdisconnects : t.disconnects = s.disconnects) (hdone : t.isSampleDone = s.isSampleDone) :
      Exits s (exit t .callback e)

/-- The responses that the accepted subscription delivered. -/
def accepted (as : List Action) : List Obj :=
  as.filterMap fun
    | .message 0 event => event
    | _ => none

theorem onMessage_cases {s s' : State} {k : Nat} {event : Option Obj}
    (h : onMessage args s k event = some s') :
    Beside s s' ∧ Settles s s' ∧ Exits s s' ∧
      (s'.certificate = s.certificate ∨ k = 0 ∧ s'.certificate = event) := by
  rw [onMessage.eq_def] at h
  split at h
  · cases h
    exact ⟨⟨rfl, rfl, rfl⟩, .same rfl, .none rfl rfl rfl (.inl rfl), .inr ⟨rfl, rfl⟩⟩
  · cases h
    exact ⟨⟨rfl, rfl, rfl⟩, .same rfl, .none rfl rfl rfl (.inl rfl), .inl rfl⟩
  · split at h <;> cases h
    · exact ⟨⟨rfl, rfl, rfl⟩, .same rfl, .none rfl rfl rfl (.inl rfl), .inl rfl⟩
    · exact ⟨⟨by simp, by simp, by simp⟩, .same (by simp), .exit rfl rfl rfl rfl,
        .inl (exit_response s .callback .rejected .certificate)⟩
  · split at h <;> cases h
    · exact ⟨⟨rfl, rfl, rfl⟩, .same rfl, .none rfl rfl rfl (.inl rfl), .inl rfl⟩
    · exact ⟨⟨by simp, by simp, by simp⟩, .same (by simp), .exit rfl rfl rfl rfl,
        .inl (exit_response s .callback .rejected .certificate)⟩
  · cases h

theorem onPuback_ne_pending (ack : Ack Unit) :
    Mqtt.onPuback (.pending : ClientFuture Unit) ack ≠ .pending := by
  cases ack <;> simp [Mqtt.onPuback]

theorem onPublish_exits {s t : State} (hexits : t.exits = s.exits)
    (hcalled : t.disconnectCalled = s.disconnectCalled)
    (hdisconnects : t.disconnects = s.disconnects) (hdone : t.isSampleDone = s.isSampleDone)
    (future : ClientFuture Unit) :
    Exits s (onPublish t .callback future) := by
  obtain ⟨e, _, h⟩ | ⟨_, h⟩ := onPublish_cases t .callback future <;> rw [h]
  · exact .exit hexits hcalled hdisconnects hdone
  · exact .none hexits hcalled hdisconnects (.inl hdone)

theorem puback_cases {s s' : State} {i : Nat} {ack : Ack Unit} (h : puback s i ack = some s') :
    Beside s s' ∧ Settles s s' ∧ Exits s s' ∧ s'.certificate = s.certificate := by
  simp only [puback, Option.bind_eq_some_iff] at h
  obtain ⟨p, hp, h⟩ := h
  obtain ⟨hi, rfl⟩ := List.getElem?_eq_some_iff.mp hp
  have hs : s.publishes = s.publishes.take i ++ s.publishes[i] :: s.publishes.drop (i + 1) := by
    simp
  have hset : ∀ q, s.publishes.set i q =
      s.publishes.take i ++ q :: s.publishes.drop (i + 1) :=
    fun q => by rw [List.set_eq_take_append_cons_drop, if_pos hi]
  have hrequests : ∀ q : Publish, q.request = s.publishes[i].request →
      (s.publishes.set i q).map Publish.request = s.requests := by
    intro q hq
    rw [State.requests, hset, List.map_append, List.map_cons, hq, ← List.map_cons,
      ← List.map_append, ← hs]
  cases hpending : s.publishes[i].future with
  | pending =>
      have hfuture := onPuback_ne_pending ack
      cases hcallback : s.publishes[i].callback with
      | added =>
          simp only [hpending, hcallback, Option.some.injEq] at h
          subst h
          refine ⟨⟨by simp, by simp, ?_⟩, .told hs ((onPublish_publishes _ _ _).trans (hset _))
            hcallback hfuture ?_, ?_, ?_⟩
          · rw [State.requests, onPublish_publishes]
            exact hrequests _ rfl
          · intro e he
            simp [he, onPublish]
          · refine onPublish_exits ?_ ?_ ?_ ?_ _ <;> rfl
          · rw [onPublish_certificate]
      | notAdded | ran caller =>
          simp only [hpending, hcallback, Option.some.injEq] at h
          subst h
          exact ⟨⟨rfl, rfl, hrequests _ rfl⟩,
            .silent hs (hcallback ▸ hset _) hpending hfuture, .none rfl rfl rfl (.inl rfl), rfl⟩
  | cancelled | done outcome =>
      simp only [hpending] at h
      cases h

theorem callback_cases {s s' : State} {a : Action} (ha : a.isMain = false)
    (h : step B args s a = some s') :
    Beside s s' ∧ Settles s s' ∧ Exits s s' ∧
      (s'.certificate = s.certificate ∨
        ∃ event, a = .message 0 event ∧ s'.certificate = event) := by
  cases a with
  | connected ok | subscribed ok | main | publish reply => cases ha
  | message k event =>
      rw [step, Option.ite_none_right_eq_some] at h
      obtain ⟨hbeside, hsettles, hexits, hcertificate⟩ := onMessage_cases h.2
      refine ⟨hbeside, hsettles, hexits, hcertificate.imp_right ?_⟩
      rintro ⟨rfl, hevent⟩
      exact ⟨event, rfl, hevent⟩
  | accepted =>
      rw [step] at h
      split at h
      · cases h
      · simp only at h
        split at h <;> cases h
        · exact ⟨⟨by simp, by simp, by rw [exit_requests]; rfl⟩, .same (by simp),
            .exit rfl rfl rfl rfl,
            .inl (exit_response { s with accepting := none } .callback _ .certificate)⟩
        · exact ⟨⟨rfl, rfl, rfl⟩, .same rfl, .none rfl rfl rfl (.inl rfl), .inl rfl⟩
  | puback i ack =>
      obtain ⟨hbeside, hsettles, hexits, hcertificate⟩ := puback_cases h
      exact ⟨hbeside, hsettles, hexits, .inl hcertificate⟩
  | disconnected =>
      rw [step, Option.ite_none_right_eq_some, Option.some.injEq] at h
      obtain ⟨⟨hdisconnects, _⟩, rfl⟩ := h
      exact ⟨⟨rfl, rfl, rfl⟩, .same rfl, .none rfl rfl rfl (.inr ⟨rfl, hdisconnects⟩), .inl rfl⟩

/-! ## Requests -/

theorem length_subscriptions (args : Args) : args.subscriptions.length = 4 := by
  rw [Args.subscriptions]
  split <;> rfl

def CertificateAsked (args : Args) (published : List (PublishOperation × Request)) : Prop :=
  ∃ request, args.certificateRequest = some request ∧ published = [request]

/-- The request registers the thing with the token of a response. -/
def Registers (args : Args) (responses : List Obj) (request : PublishOperation × Request) : Prop :=
  ∃ response token parameters, response ∈ responses ∧
    ownershipToken (some response) = .ok token ∧ args.templateParameters = some parameters ∧
    request = args.registerRequest token parameters

def ThingAsked (args : Args) (responses : List Obj)
    (published : List (PublishOperation × Request)) : Prop :=
  ∃ request request', args.certificateRequest = some request ∧ Registers args responses request' ∧
    published = [request, request']

/-- Everything is subscribed to before anything is published. -/
def Orderly (args : Args) (responses : List Obj) (subscribed : Nat)
    (published : List (PublishOperation × Request)) : Prop :=
  published = [] ∨
    subscribed = 4 ∧ (CertificateAsked args published ∨ ThingAsked args responses published)

/-- What has been done by the place of the main thread. -/
def Place (args : Args) (responses : List Obj) :
    Pc → Nat → List (PublishOperation × Request) → Prop
  | .connecting, n, ps => n = 0 ∧ ps = []
  | .addCallback .certificate, n, ps => n = 4 ∧ CertificateAsked args ps
  | .addCallback .thing, n, ps => n = 4 ∧ ThingAsked args responses ps
  | .subscribe k, n, ps => n = k ∧ k ≤ 4 ∧ ps = []
  | .subscribing k, n, ps => n = k ∧ k < 4 ∧ ps = []
  | .request, n, ps => n = 4 ∧ ps = []
  | .poll .certificate k, n, ps =>
      k ≤ Wait.certificate.bound ∧ n = 4 ∧ CertificateAsked args ps
  | .retest .certificate k, n, ps | .report .certificate k, n, ps
  | .sleep .certificate k, n, ps => k < Wait.certificate.bound ∧ n = 4 ∧ CertificateAsked args ps
  | .check, n, ps | .prepare, n, ps => n = 4 ∧ CertificateAsked args ps
  | .register request, n, ps =>
      Registers args responses request ∧ n = 4 ∧ CertificateAsked args ps
  | .poll .thing k, n, ps => k ≤ Wait.thing.bound ∧ n = 4 ∧ ThingAsked args responses ps
  | .retest .thing k, n, ps | .report .thing k, n, ps | .sleep .thing k, n, ps =>
      k < Wait.thing.bound ∧ n = 4 ∧ ThingAsked args responses ps
  | .exiting .success, n, ps => n = 4 ∧ ThingAsked args responses ps
  | .exiting _, n, ps | .waiting, n, ps | .finished, n, ps | .aborted, n, ps =>
      Orderly args responses n ps

section

variable {responses responses' : List Obj} {pc : Pc} {n : Nat}
  {ps : List (PublishOperation × Request)}

theorem Registers.mono (h : responses ⊆ responses') {request : PublishOperation × Request}
    (hr : Registers args responses request) : Registers args responses' request := by
  obtain ⟨response, token, parameters, hmem, hrest⟩ := hr
  exact ⟨response, token, parameters, h hmem, hrest⟩

theorem ThingAsked.mono (h : responses ⊆ responses') (hp : ThingAsked args responses ps) :
    ThingAsked args responses' ps := by
  obtain ⟨request, request', hrequest, hregisters, rfl⟩ := hp
  exact ⟨request, request', hrequest, hregisters.mono h, rfl⟩

theorem Orderly.mono (h : responses ⊆ responses') (hp : Orderly args responses n ps) :
    Orderly args responses' n ps :=
  hp.imp_right fun ⟨hn, hps⟩ => ⟨hn, hps.imp_right (ThingAsked.mono h)⟩

theorem Place.mono (h : responses ⊆ responses') (hp : Place args responses pc n ps) :
    Place args responses' pc n ps := by
  cases pc with
  | addCallback w =>
      cases w with
      | certificate => exact hp
      | thing => exact ⟨hp.1, hp.2.mono h⟩
  | poll w k | retest w k | report w k | sleep w k =>
      cases w with
      | certificate => exact hp
      | thing => exact ⟨hp.1, hp.2.1, hp.2.2.mono h⟩
  | register request => exact ⟨hp.1.mono h, hp.2⟩
  | exiting e =>
      cases e with
      | success => exact ⟨hp.1, hp.2.mono h⟩
      | rejected | error e => exact Orderly.mono h hp
  | waiting | finished | aborted => exact Orderly.mono h hp
  | connecting | subscribe k | subscribing k | request | check | prepare => exact hp

theorem Place.orderly (hp : Place args responses pc n ps) : Orderly args responses n ps := by
  cases pc with
  | connecting => exact .inl hp.2
  | subscribe k | subscribing k => exact .inl hp.2.2
  | request => exact .inl hp.2
  | addCallback w =>
      cases w with
      | certificate => exact .inr ⟨hp.1, .inl hp.2⟩
      | thing => exact .inr ⟨hp.1, .inr hp.2⟩
  | poll w k | retest w k | report w k | sleep w k =>
      cases w with
      | certificate => exact .inr ⟨hp.2.1, .inl hp.2.2⟩
      | thing => exact .inr ⟨hp.2.1, .inr hp.2.2⟩
  | check | prepare => exact .inr ⟨hp.1, .inl hp.2⟩
  | register request => exact .inr ⟨hp.2.1, .inl hp.2.2⟩
  | exiting e =>
      cases e with
      | success => exact .inr ⟨hp.1, .inr hp.2⟩
      | rejected | error e => exact hp
  | waiting | finished | aborted => exact hp

theorem Place.after {w : Wait} {k : Nat} (h : pc = .poll w k ∨ pc = .retest w k)
    (hp : Place args responses pc n ps) : Place args responses w.after n ps := by
  rcases h with rfl | rfl <;> cases w <;> exact hp.2

theorem Place.poll {w : Wait} (hp : Place args responses (.addCallback w) n ps) :
    Place args responses (.poll w 0) n ps := by
  cases w <;> exact ⟨Nat.zero_le _, hp⟩

theorem Place.moves {s : State} (h : Moves args s pc)
    (hresponse : ∀ x, s.certificate = some x → x ∈ responses)
    (hp : Place args responses s.pc n ps) : Place args responses pc n ps := by
  cases h with
  | connected hpc =>
      rw [hpc] at hp
      exact ⟨hp.1, by decide, hp.2⟩
  | notConnected hpc | refused e hpc | notSubscribed e hpc | notRequested e hpc
  | notSerializable hpc _ | apiDidNotSucceed hpc _ | notPrepared e hpc | notRegistered e hpc =>
      exact hp.orderly
  | subscribed hpc hk =>
      rw [hpc] at hp
      rw [List.getElem?_eq_none_iff, length_subscriptions] at hk
      obtain ⟨rfl, hle, rfl⟩ := hp
      exact ⟨Nat.le_antisymm hle hk, rfl⟩
  | @retest w k hpc hk hw =>
      rw [hpc] at hp
      cases w <;> exact ⟨hk, hp.2⟩
  | timeout hpc _ => exact hp.after (.inl hpc)
  | leave hpc _ => exact hp.after hpc
  | @report w k hpc hw | @sleep w k hpc hw =>
      rw [hpc] at hp
      cases w <;> exact hp
  | @poll w k hpc =>
      rw [hpc] at hp
      cases w <;> exact ⟨hp.1, hp.2⟩
  | prepare hpc _ =>
      rw [hpc] at hp
      exact hp
  | @register token parameters hpc htoken hparameters =>
      rw [hpc] at hp
      cases hcertificate : s.certificate with
      | none =>
          rw [hcertificate] at htoken
          cases htoken
      | some x =>
          rw [hcertificate] at htoken
          exact ⟨⟨x, token, parameters, hresponse x hcertificate, htoken, hparameters, rfl⟩, hp⟩

end

/-! ## Runs -/

/-- What holds after the actions. -/
structure Inv (args : Args) (as : List Action) (s : State) : Prop where
  certificate : ∀ x, s.certificate = some x → x ∈ accepted as
  place : Place args (accepted as) s.pc s.subscribed s.requests

theorem Inv.main {as : List Action} {s s' : State} (h : Inv args as s) (hs : MainCases args s s') :
    Inv args as s' := by
  obtain ⟨hcertificate, hplace⟩ := h
  cases hs with
  | move hmove => exact ⟨hcertificate, hplace.moves hmove hcertificate⟩
  | subscribe hpc hk =>
      rw [hpc] at hplace
      rw [length_subscriptions] at hk
      exact ⟨hcertificate, hplace.1, hk, hplace.2.2⟩
  | subscribed hpc =>
      rw [hpc] at hplace
      exact ⟨hcertificate, rfl, hplace.2.1, hplace.2.2⟩
  | requested hpc hrequest =>
      rw [hpc] at hplace
      refine ⟨hcertificate, hplace.1, _, hrequest, ?_⟩
      rw [State.requests, List.map_append, ← State.requests, hplace.2]
      rfl
  | registered hpc =>
      rw [hpc] at hplace
      obtain ⟨hregisters, hn, request, hrequest, hps⟩ := hplace
      refine ⟨hcertificate, hn, request, _, hrequest, hregisters, ?_⟩
      rw [State.requests, List.map_append, ← State.requests, hps]
      rfl
  | added hpc hlast _ =>
      rw [hpc, State.requests, hlast] at hplace
      exact ⟨hcertificate, by simpa [State.requests] using hplace.poll⟩
  | told hpc hlast _ =>
      rw [hpc, State.requests, hlast] at hplace
      refine ⟨fun x hx => hcertificate x ?_, by simpa [State.requests] using hplace.poll⟩
      rw [onPublish_certificate] at hx
      exact hx
  | @exit e hpc =>
      refine ⟨fun x hx => hcertificate x ?_, ?_⟩
      · exact (exit_response s .main e .certificate).symm.trans hx
      · simpa [Place, State.requests] using hplace.orderly
  | finish hpc _ => exact ⟨hcertificate, hplace.orderly⟩

theorem inv_step {as : List Action} {s s' : State} {a : Action} (h : Inv args as s)
    (hs : step B args s a = some s') : Inv args (as ++ [a]) s' := by
  have haccepted : accepted (as ++ [a]) = accepted as ++ accepted [a] := List.filterMap_append
  have hsub : accepted as ⊆ accepted (as ++ [a]) := by
    rw [haccepted]
    exact List.subset_append_left _ _
  have hmono : ∀ {t : State}, Inv args as t → Inv args (as ++ [a]) t := fun h =>
    ⟨fun x hx => hsub (h.certificate x hx), h.place.mono hsub⟩
  cases ha : a.isMain with
  | false =>
      obtain ⟨hbeside, _, _, hcertificate⟩ := callback_cases ha hs
      refine ⟨fun x hx => ?_, ?_⟩
      · rcases hcertificate with heq | ⟨event, rfl, heq⟩
        · exact hsub (h.certificate x (heq ▸ hx))
        · rw [heq] at hx
          rw [haccepted, hx]
          simp [accepted]
      · rw [hbeside.pc, hbeside.subscribed, hbeside.requests]
        exact h.place.mono hsub
  | true => exact hmono (h.main (isMain_cases ha hs))

theorem inv_run {as : List Action} {s : State} (h : run (step B args) {} as = some s) :
    Inv args as s :=
  run_history (I := Inv args) (fun _ _ _ _ hI hs => inv_step hI hs) h
    ⟨by simp, rfl, rfl⟩

/-! ## Ending -/

def Pc.isOver : Pc → Bool
  | .waiting | .finished => true
  | _ => false

/-- The first call of `exit` disconnects. -/
structure Ended (s : State) : Prop where
  called : s.disconnectCalled = true ↔ s.exits ≠ []
  disconnects : s.disconnects = if s.disconnectCalled then 1 else 0
  done : s.isSampleDone = true → s.disconnectCalled = true
  finished : s.pc = .finished → s.isSampleDone = true

theorem Ended.exit_disconnects {s t : State} (h : Ended s)
    (hcalled : t.disconnectCalled = s.disconnectCalled)
    (hdisconnects : t.disconnects = s.disconnects) (caller : Caller) (e : Exit) :
    (exit t caller e).disconnects = 1 := by
  have hs := h.disconnects
  rw [FleetProvisioning.exit_disconnects, hcalled, hdisconnects, hs]
  split <;> rfl

theorem Ended.beside {s s' : State} (h : Ended s) (hpc : s'.pc = s.pc) (hs : Exits s s') :
    Ended s' := by
  cases hs with
  | none hexits hcalled hdisconnects hdone =>
      refine ⟨?_, ?_, fun hdone' => ?_, fun hfinished => ?_⟩
      · rw [hcalled, hexits, h.called]
      · rw [hcalled, hdisconnects, h.disconnects]
      · rw [hcalled]
        rcases hdone with heq | ⟨_, hpos⟩
        · exact h.done (heq ▸ hdone')
        · rw [h.disconnects] at hpos
          by_contra hnot
          rw [if_neg hnot] at hpos
          cases hpos
      · rcases hdone with heq | ⟨htrue, _⟩
        · rw [heq]
          exact h.finished (hpc ▸ hfinished)
        · exact htrue
  | @exit t e hexits hcalled hdisconnects hdone =>
      refine ⟨by simp, ?_, fun _ => by simp, fun hfinished => ?_⟩
      · simp [h.exit_disconnects hcalled hdisconnects]
      · rw [exit_isSampleDone, hdone]
        exact h.finished (hpc ▸ hfinished)

/-- A step of the main thread that is not its end. -/
theorem Ended.move {s s' : State} (h : Ended s) (hpc' : s'.pc.isOver = false)
    (hexits : s'.exits = s.exits) (hcalled : s'.disconnectCalled = s.disconnectCalled)
    (hdisconnects : s'.disconnects = s.disconnects) (hdone : s'.isSampleDone = s.isSampleDone) :
    Ended s' where
  called := by rw [hcalled, hexits, h.called]
  disconnects := by rw [hcalled, hdisconnects, h.disconnects]
  done := by rw [hcalled, hdone]; exact h.done
  finished hfinished := by
    rw [hfinished] at hpc'
    cases hpc'

/-- A call of `exit` by the main thread. -/
theorem Ended.exit {s t : State} (h : Ended s) (hcalled : t.disconnectCalled = s.disconnectCalled)
    (hdisconnects : t.disconnects = s.disconnects) (hpc : t.pc ≠ .finished) (e : Exit) :
    Ended (FleetProvisioning.exit t .main e) where
  called := by simp
  disconnects := by simp [h.exit_disconnects hcalled hdisconnects]
  done := fun _ => by simp
  finished hfinished := by
    rw [exit_pc] at hfinished
    exact absurd hfinished hpc

theorem Moves.isOver {s : State} {pc : Pc} (h : Moves args s pc) :
    s.pc.isOver = false ∧ pc.isOver = false := by
  have hafter : ∀ w : Wait, w.after.isOver = false := by
    intro w
    cases w <;> rfl
  cases h with
  | timeout hpc _ => exact ⟨by rw [hpc]; rfl, hafter _⟩
  | leave hpc _ =>
      refine ⟨?_, hafter _⟩
      rcases hpc with hpc | hpc <;> rw [hpc] <;> rfl
  | connected hpc | notConnected hpc | refused _ hpc | subscribed hpc _ | notSubscribed _ hpc
  | notRequested _ hpc | retest hpc _ _ | report hpc _ | notSerializable hpc _ | sleep hpc _
  | poll hpc | apiDidNotSucceed hpc _ | prepare hpc _ | notPrepared _ hpc | register hpc _ _
  | notRegistered _ hpc => exact ⟨by rw [hpc]; rfl, rfl⟩

theorem Ended.main_step {s s' : State} (h : Ended s) (hs : MainCases args s s') : Ended s' := by
  cases hs with
  | move hmove => exact h.move hmove.isOver.2 rfl rfl rfl rfl
  | subscribe hpc _ | subscribed hpc | requested hpc _ | registered hpc | added hpc _ _ =>
      exact h.move rfl rfl rfl rfl rfl
  | @told w ps p hpc hlast _ =>
      obtain ⟨e, _, he⟩ | ⟨_, he⟩ := onPublish_cases
        { s with publishes := ps ++ [{ p with callback := .ran .main }], pc := .poll w 0 }
        .main p.future <;> rw [he]
      · refine h.exit ?_ ?_ ?_ _
        · rfl
        · rfl
        · simp
      · refine h.move ?_ ?_ ?_ ?_ ?_ <;> rfl
  | @exit e hpc =>
      obtain ⟨hcalled, hdisconnects, hdone, _⟩ := h.exit rfl rfl (by simp [hpc]) e
      exact ⟨hcalled, hdisconnects, hdone, fun hfinished => by cases hfinished⟩
  | finish hpc hdone => exact ⟨h.called, h.disconnects, h.done, fun _ => hdone⟩

theorem ended_step {s s' : State} {a : Action} (h : Ended s) (hs : step B args s a = some s') :
    Ended s' := by
  cases ha : a.isMain with
  | false =>
      obtain ⟨hbeside, _, hexits, _⟩ := callback_cases ha hs
      exact h.beside hbeside.pc hexits
  | true => exact h.main_step (isMain_cases ha hs)

theorem ended_run {as : List Action} {s : State} (h : run (step B args) {} as = some s) :
    Ended s :=
  run_invariant (fun _ _ _ hI hs => ended_step hI hs) h
    ⟨by simp, rfl, by simp, by simp⟩

/-! ## Failed publishes -/

def mainExits (exits : List (Caller × Exit)) : List Exit :=
  exits.filterMap fun e => if e.1 = .main then some e.2 else none

/-- What the callback of a failed publish calls `exit` with, if it has run on this thread. -/
def Publish.reported (caller : Caller) (p : Publish) : Option Exit :=
  match p.callback, p.future with
  | .ran caller', .done (.error e) =>
      if caller' = caller then some (.error (.publish e)) else none
  | _, _ => none

def State.reported (s : State) (caller : Caller) : List Exit :=
  s.publishes.filterMap (Publish.reported caller)

/-- The main thread calls `exit` for the publishes that had failed when their callbacks were
added, and once at its end. -/
structure Told (s : State) : Prop where
  notAdded : ∀ w ps p, s.pc = .addCallback w → s.publishes = ps ++ [p] → p.callback = .notAdded
  settled : ∀ p ∈ s.publishes, ∀ caller, p.callback = .ran caller → p.future ≠ .pending
  main : ∃ final : Option Exit,
    mainExits s.exits = s.reported .main ++ final.toList ∧ final.isSome = s.pc.isOver
  reported : ∀ caller, ∀ e ∈ s.reported caller, (caller, e) ∈ s.exits

section

variable {s s' : State}

theorem Publish.reported_of_ne {p : Publish} {caller : Caller} (h : p.callback ≠ .ran caller) :
    p.reported caller = none := by
  rw [Publish.reported]
  split
  · rename_i caller' e hcallback hfuture
    exact if_neg fun heq => h (by rw [hcallback, heq])
  · rfl

theorem Publish.reported_of_pending {p : Publish} {caller : Caller} (h : p.future = .pending) :
    p.reported caller = none := by
  rw [Publish.reported, h]
  split <;> simp_all

theorem Publish.reported_ran {p : Publish} {caller : Caller} (h : p.callback = .ran caller) :
    p.reported caller =
      match p.future with
      | .done (.error e) => some (.error (.publish e))
      | _ => none := by
  rw [Publish.reported, h]
  split <;> simp_all

theorem Exits.mainExits_eq (h : Exits s s') : mainExits s'.exits = mainExits s.exits := by
  cases h with
  | none hexits _ _ _ => rw [hexits]
  | exit hexits _ _ _ => simp [mainExits, hexits]

theorem Exits.subset (h : Exits s s') : s.exits ⊆ s'.exits := by
  cases h with
  | none hexits _ _ _ => rw [hexits]; exact List.Subset.refl _
  | exit hexits _ _ _ => simp [hexits]

theorem reported_append {xs ys : List Publish} {p : Publish} (hs : s.publishes = xs ++ p :: ys)
    (caller : Caller) :
    s.reported caller =
      xs.filterMap (Publish.reported caller) ++ (p.reported caller).toList ++
        ys.filterMap (Publish.reported caller) := by
  rw [State.reported, hs, List.filterMap_append, List.filterMap_cons]
  cases p.reported caller <;> simp

/-- A publish is replaced by one that has told the thread as much. -/
theorem reported_replace {xs ys : List Publish} {p p' : Publish} {caller : Caller}
    (hs : s.publishes = xs ++ p :: ys) (hs' : s'.publishes = xs ++ p' :: ys)
    (h : p'.reported caller = p.reported caller) : s'.reported caller = s.reported caller := by
  rw [reported_append hs, reported_append hs', h]

theorem Told.reported_eq_none (h : Told s) {p : Publish} (hp : p ∈ s.publishes)
    (hpending : p.future = .pending) (future : ClientFuture Unit) (caller : Caller) :
    Publish.reported caller { p with future } = none :=
  Publish.reported_of_ne fun hran => h.settled p hp caller hran hpending

/-- One publish is replaced by one whose future is done. -/
theorem Told.replace (h : Told s) (hpc : s'.pc = s.pc) {xs ys : List Publish} {p p' : Publish}
    (hs : s.publishes = xs ++ p :: ys) (hs' : s'.publishes = xs ++ p' :: ys)
    (hcallback : p.callback = .notAdded → p'.callback = .notAdded)
    (hfuture : p'.future ≠ .pending) :
    (∀ w ps q, s'.pc = .addCallback w → s'.publishes = ps ++ [q] → q.callback = .notAdded) ∧
      ∀ q ∈ s'.publishes, ∀ caller, q.callback = .ran caller → q.future ≠ .pending := by
  refine ⟨fun w ps q hw hps => ?_, fun q hq caller hran => ?_⟩
  · rw [hpc] at hw
    rcases ys.eq_nil_or_concat with rfl | ⟨ys, last, rfl⟩
    · obtain ⟨_, rfl⟩ := List.append_singleton_inj.mp (hps.symm.trans hs')
      exact hcallback (h.notAdded w xs p hw hs)
    · rw [List.concat_eq_append, ← List.cons_append, ← List.append_assoc] at hs hs'
      obtain ⟨_, rfl⟩ := List.append_singleton_inj.mp (hps.symm.trans hs')
      exact h.notAdded w _ q hw hs
  · rw [hs', List.mem_append, List.mem_cons] at hq
    rcases hq with hq | rfl | hq
    · exact h.settled q (by simp [hs, hq]) caller hran
    · exact hfuture
    · exact h.settled q (by simp [hs, hq]) caller hran

theorem Told.beside (h : Told s) (hpc : s'.pc = s.pc) (hsettles : Settles s s')
    (hexits : Exits s s') : Told s' := by
  have hmain : ∀ {caller}, s'.reported caller = s.reported caller →
      ∀ e ∈ s'.reported caller, (caller, e) ∈ s'.exits :=
    fun heq e he => hexits.subset (h.reported _ e (heq ▸ he))
  have hfinal : s'.reported .main = s.reported .main →
      ∃ final : Option Exit, mainExits s'.exits = s'.reported .main ++ final.toList ∧
        final.isSome = s'.pc.isOver := by
    intro heq
    rw [hexits.mainExits_eq, heq, hpc]
    exact h.main
  cases hsettles with
  | same hs =>
      have hreported : ∀ caller, s'.reported caller = s.reported caller :=
        fun caller => by rw [State.reported, hs, State.reported]
      refine ⟨?_, hs ▸ h.settled, hfinal (hreported _), fun caller => hmain (hreported caller)⟩
      rw [hpc, hs]
      exact h.notAdded
  | @silent xs p ys future hs hs' hpending hfuture =>
      have hp : p ∈ s.publishes := by simp [hs]
      have hreported : ∀ caller, s'.reported caller = s.reported caller := fun caller =>
        reported_replace hs hs' <| by
          rw [h.reported_eq_none hp hpending, Publish.reported_of_pending hpending]
      obtain ⟨hnotAdded, hsettled⟩ := h.replace hpc hs hs' id hfuture
      exact ⟨hnotAdded, hsettled, hfinal (hreported _), fun caller => hmain (hreported caller)⟩
  | @told xs p ys future hs hs' hadded hfuture hreports =>
      have hold : ∀ caller, p.reported caller = none := fun caller =>
        Publish.reported_of_ne (by simp [hadded])
      -- the callback of a publish that is at `add_done_callback` is not added yet
      obtain ⟨hnotAdded, hsettled⟩ := h.replace hpc hs hs' (by simp [hadded]) hfuture
      refine ⟨hnotAdded, hsettled, hfinal ?_, fun caller e he => ?_⟩
      · exact reported_replace hs hs' (by rw [hold, Publish.reported_of_ne (by simp)])
      · rw [reported_append hs'] at he
        simp only [List.mem_append, Option.mem_toList] at he
        rcases he with (he | he) | he
        · exact hexits.subset (h.reported caller e (by simp [reported_append hs, he]))
        · cases caller with
          | main =>
              rw [Publish.reported_of_ne (by simp)] at he
              cases he
          | callback =>
              rw [Publish.reported_ran rfl] at he
              simp only at he
              split at he
              · cases he
                exact hreports _ rfl
              · cases he
        · exact hexits.subset (h.reported caller e (by simp [reported_append hs, he]))

theorem Told.mainExits_eq (h : Told s) (hpc : s.pc.isOver = false) :
    mainExits s.exits = s.reported .main := by
  obtain ⟨final, hmain, hover⟩ := h.main
  rw [hpc] at hover
  cases final with
  | none => simpa using hmain
  | some e => cases hover

theorem Moves.ne_addCallback {pc : Pc} (h : Moves args s pc) (w : Wait) : pc ≠ .addCallback w := by
  have hafter : ∀ w' : Wait, w'.after ≠ .addCallback w := by
    intro w'
    cases w' <;> simp [Wait.after]
  cases h with
  | timeout _ _ | leave _ _ => exact hafter _
  | connected _ | notConnected _ | refused _ _ | subscribed _ _ | notSubscribed _ _
  | notRequested _ _ | retest _ _ _ | report _ _ | notSerializable _ _ | sleep _ _ | poll _
  | apiDidNotSucceed _ _ | prepare _ _ | notPrepared _ _ | register _ _ _ | notRegistered _ _ =>
      simp

/-- A step of the main thread past no request. -/
theorem Told.move (h : Told s) (hpc : s.pc.isOver = false) (hpc' : s'.pc.isOver = false)
    (hadd : ∀ w, s'.pc ≠ .addCallback w) (hpublishes : s'.publishes = s.publishes)
    (hexits : s'.exits = s.exits) : Told s' where
  notAdded w _ _ hw := absurd hw (hadd w)
  settled := by rw [hpublishes]; exact h.settled
  main := ⟨none, by simpa [State.reported, hpublishes, hexits] using h.mainExits_eq hpc,
    by rw [hpc']; rfl⟩
  reported caller e he := by
    rw [State.reported, hpublishes] at he
    exact hexits ▸ h.reported caller e he

/-- A step of the main thread at a request. -/
theorem Told.request (h : Told s) (hpc : s.pc.isOver = false) {w : Wait}
    {request : PublishOperation × Request} {future : ClientFuture Unit} :
    Told { s with
      publishes := s.publishes ++ [⟨request, future, .notAdded⟩], pc := .addCallback w } := by
  have hreported : ∀ caller, State.reported { s with
      publishes := s.publishes ++ [⟨request, future, .notAdded⟩], pc := .addCallback w } caller =
      s.reported caller := by
    intro caller
    simp [State.reported, Publish.reported_of_ne]
  refine ⟨fun w' ps p _ hps => ?_, fun p hp caller hran => ?_, ⟨none, ?_, rfl⟩,
    fun caller e he => h.reported caller e (hreported caller ▸ he)⟩
  · obtain ⟨_, rfl⟩ := List.append_singleton_inj.mp hps
    rfl
  · simp only [List.mem_append, List.mem_singleton] at hp
    rcases hp with hp | rfl
    · exact h.settled p hp caller hran
    · cases hran
  · rw [hreported]
    simpa using h.mainExits_eq hpc

/-- The callback is added to the future of the last publish, and runs if it is done. -/
theorem Told.add (h : Told s) {w : Wait} {ps : List Publish} {p : Publish}
    {callback : Callback} (hpc : s.pc = .addCallback w) (hlast : s.publishes = ps ++ [p])
    (hcallback : ∀ caller, callback = .ran caller → p.future ≠ .pending)
    (hpc' : s'.pc = .poll w 0) (hpublishes : s'.publishes = ps ++ [{ p with callback }])
    (hexits : s'.exits = s.exits ++
      (Publish.reported .main { p with callback }).toList.map (Caller.main, ·))
    (hnot : Publish.reported .callback { p with callback } = none) : Told s' := by
  have hold : ∀ caller, p.reported caller = none := fun caller =>
    Publish.reported_of_ne (by simp [h.notAdded w ps p hpc hlast])
  have hreported : ∀ caller, s'.reported caller =
      s.reported caller ++ (Publish.reported caller { p with callback }).toList := by
    intro caller
    rw [reported_append hlast, reported_append hpublishes, hold]
    simp
  refine ⟨fun w' _ _ hw _ => ?_, fun q hq caller hran => ?_, ⟨none, ?_, by rw [hpc']; rfl⟩,
    fun caller e he => ?_⟩
  · rw [hpc'] at hw
    cases hw
  · rw [hpublishes, List.mem_append, List.mem_singleton] at hq
    rcases hq with hq | rfl
    · exact h.settled q (by simp [hlast, hq]) caller hran
    · exact hcallback caller hran
  · have hmain := h.mainExits_eq (by rw [hpc]; rfl)
    rw [hreported, hexits, ← hmain]
    cases Publish.reported .main { p with callback } <;> simp [mainExits]
  · rw [hreported, List.mem_append] at he
    rw [hexits, List.mem_append]
    refine he.imp (h.reported caller e) fun he => ?_
    cases caller with
    | main => exact List.mem_map_of_mem he
    | callback => simp [hnot] at he

theorem onPublish_exits_eq (t : State) {caller : Caller} {p : Publish}
    (hran : p.callback = .ran caller) :
    (onPublish t caller p.future).exits =
      t.exits ++ (p.reported caller).toList.map (caller, ·) := by
  rw [Publish.reported_ran hran]
  cases p.future with
  | pending | cancelled => simp [onPublish]
  | done outcome => cases outcome <;> simp [onPublish]

theorem Told.main_step (h : Told s) (hs : MainCases args s s') : Told s' := by
  cases hs with
  | move hmove => exact h.move hmove.isOver.1 hmove.isOver.2 hmove.ne_addCallback rfl rfl
  | subscribe hpc _ | subscribed hpc => exact h.move (by rw [hpc]; rfl) rfl (by simp) rfl rfl
  | requested hpc _ | registered hpc => exact h.request (by rw [hpc]; rfl)
  | added hpc hlast _ =>
      refine h.add hpc hlast (by simp) rfl rfl ?_ (Publish.reported_of_ne (by simp))
      simp [Publish.reported_of_ne]
  | @told w ps p hpc hlast hfuture =>
      refine h.add hpc hlast (fun _ _ => hfuture) (onPublish_pc _ _ _) (onPublish_publishes _ _ _)
        ?_ (Publish.reported_of_ne (by simp))
      exact onPublish_exits_eq _ (p := { p with callback := .ran .main }) rfl
  | @exit e hpc =>
      have hmain := h.mainExits_eq (by rw [hpc]; rfl)
      refine ⟨by simp, ?_, ⟨some e, ?_, rfl⟩, fun caller e' he' => ?_⟩
      · simpa using h.settled
      · rw [mainExits] at hmain
        simp [mainExits, hmain, State.reported]
      · rw [State.reported] at he'
        simp only [exit_publishes] at he'
        simp [h.reported caller e' he']
  | finish hpc _ =>
      obtain ⟨hnot, hsettled, ⟨final, hmain, hover⟩, hreported⟩ := h
      rw [hpc] at hover
      exact ⟨by simp, hsettled, ⟨final, hmain, hover⟩, hreported⟩

theorem told_step {a : Action} (h : Told s) (hs : step B args s a = some s') : Told s' := by
  cases ha : a.isMain with
  | false =>
      obtain ⟨hbeside, hsettles, hexits, _⟩ := callback_cases ha hs
      exact h.beside hbeside.pc hsettles hexits
  | true => exact h.main_step (isMain_cases ha hs)

theorem told_run {as : List Action} (h : run (step B args) {} as = some s) : Told s :=
  run_invariant (fun _ _ _ hI hs => told_step hI hs) h
    ⟨by simp, by simp, ⟨none, rfl, rfl⟩, by simp [State.reported]⟩

end

/-- The steps that are left to the main thread, at most. -/
def rank : Pc → Nat
  | .connecting => 140
  | .subscribe k => 2 * (4 - k) + 131
  | .subscribing k => 2 * (4 - k) + 130
  | .request => 130
  | .addCallback .certificate => 129
  | .poll .certificate n => 4 * (10 - n) + 88
  | .retest .certificate n => 4 * (10 - n) + 87
  | .report .certificate n => 4 * (10 - n) + 86
  | .sleep .certificate n => 4 * (10 - n) + 85
  | .check => 87
  | .prepare => 86
  | .register _ => 85
  | .addCallback .thing => 84
  | .poll .thing n => 4 * (20 - n) + 3
  | .retest .thing n => 4 * (20 - n) + 2
  | .report .thing n => 4 * (20 - n) + 1
  | .sleep .thing n => 4 * (20 - n)
  | .exiting _ => 2
  | .waiting => 1
  | .finished | .aborted => 0

def mainSteps (as : List Action) : Nat := as.countP Action.isMain

theorem rank_moves {responses : List Obj} {s : State} {pc : Pc} {n : Nat}
    {ps : List (PublishOperation × Request)} (h : Moves args s pc)
    (hplace : Place args responses s.pc n ps) : rank pc < rank s.pc := by
  cases h with
  | connected hpc | notConnected hpc | refused _ hpc | subscribed hpc _ | notSubscribed _ hpc
  | notRequested _ hpc | apiDidNotSucceed hpc _ | prepare hpc _ | notPrepared _ hpc
  | register hpc _ _ | notRegistered _ hpc =>
      rw [hpc]
      simp only [rank]
      omega
  | @retest w k hpc hk hw =>
      rw [hpc]
      cases w <;> exact Nat.lt_succ_self _
  | @timeout w k hpc _ =>
      rw [hpc]
      cases w <;> simp only [rank, Wait.after] <;> omega
  | @leave w k hpc _ =>
      rcases hpc with hpc | hpc
      · rw [hpc]
        cases w <;> simp only [rank, Wait.after] <;> omega
      · rw [hpc] at hplace ⊢
        have hk : k < w.bound := by
          cases w <;> exact hplace.1
        cases w <;> simp only [Wait.bound] at hk <;> simp only [rank, Wait.after] <;> omega
  | @report w k hpc _ =>
      rw [hpc]
      cases w <;> exact Nat.lt_succ_self _
  | @notSerializable w k hpc _ =>
      rw [hpc] at hplace ⊢
      have hk : k < w.bound := by
        cases w <;> exact hplace.1
      cases w <;> simp only [Wait.bound] at hk <;> simp only [rank] <;> omega
  | @sleep w k hpc _ =>
      rw [hpc]
      cases w <;> exact Nat.lt_succ_self _
  | @poll w k hpc =>
      rw [hpc] at hplace ⊢
      have hk : k < w.bound := by
        cases w <;> exact hplace.1
      cases w <;> simp only [Wait.bound] at hk <;> simp only [rank] <;> omega

theorem rank_main {as : List Action} {s s' : State} (h : Inv args as s)
    (hs : MainCases args s s') : rank s'.pc < rank s.pc := by
  cases hs with
  | move hmove => exact rank_moves hmove h.place
  | subscribed hpc =>
      have hplace := h.place
      rw [hpc] at hplace ⊢
      have hk := hplace.2.1
      simp only [rank]
      omega
  | subscribe hpc _ | requested hpc _ | registered hpc =>
      rw [hpc]
      exact Nat.lt_succ_self _
  | @added w _ _ hpc _ _ =>
      rw [hpc]
      cases w <;> exact Nat.lt_succ_self _
  | @told w _ _ hpc _ _ =>
      rw [hpc, onPublish_pc]
      cases w <;> exact Nat.lt_succ_self _
  | exit hpc =>
      rw [hpc]
      exact Nat.lt_succ_self _
  | finish hpc _ =>
      rw [hpc]
      exact Nat.zero_lt_one

theorem rank_step {as : List Action} {s s' : State} {a : Action} (h : Inv args as s)
    (hs : step B args s a = some s') :
    rank s'.pc + (if a.isMain then 1 else 0) ≤ rank s.pc := by
  cases ha : a.isMain with
  | false =>
      rw [(callback_cases ha hs).1.pc]
      simp
  | true => exact rank_main h (isMain_cases ha hs)

theorem mainSteps_run {as : List Action} {s : State} (h : run (step B args) {} as = some s) :
    mainSteps as + rank s.pc ≤ 140 := by
  have hboth : Inv args as s ∧ mainSteps as + rank s.pc ≤ 140 := by
    refine run_history (I := fun as s => Inv args as s ∧ mainSteps as + rank s.pc ≤ 140)
      (fun as m a m' hI hs => ⟨inv_step hI.1 hs, ?_⟩) h ⟨⟨by simp, rfl, rfl⟩, Nat.le_refl _⟩
    have hrank := rank_step hI.1 hs
    have hle := hI.2
    rw [mainSteps, List.countP_append, List.countP_singleton]
    rw [mainSteps] at hle
    omega
  exact hboth.2

/-! ## Success -/

/-- Success is told when the request to register the thing was made. -/
def Succeeded (args : Args) (as : List Action) (s : State) : Prop :=
  (Caller.main, Exit.success) ∈ s.exits →
    s.pc.isOver = true ∧ ThingAsked args (accepted as) s.requests

theorem Succeeded.main_step {as as' : List Action} {s s' : State} (h : Succeeded args as s)
    (hinv : Inv args as s) (hsub : accepted as ⊆ accepted as') (hs : MainCases args s s') :
    Succeeded args as' s' := by
  intro hsuccess
  cases hs with
  | move hmove =>
      have hover := (h hsuccess).1
      rw [hmove.isOver.1] at hover
      cases hover
  | subscribe hpc _ | subscribed hpc | requested hpc _ | registered hpc | added hpc _ _ =>
      have hover := (h hsuccess).1
      rw [hpc] at hover
      cases hover
  | @told w ps p hpc _ _ =>
      have hexits := onPublish_exits_eq
        { s with publishes := ps ++ [{ p with callback := .ran .main }], pc := .poll w 0 }
        (p := { p with callback := .ran .main }) rfl
      rw [hexits, List.mem_append] at hsuccess
      rcases hsuccess with hold | hnew
      · have hover := (h hold).1
        rw [hpc] at hover
        cases hover
      · rw [Publish.reported_ran rfl] at hnew
        simp only at hnew
        split at hnew <;> simp at hnew
  | @exit e hpc =>
      have hnew : (Caller.main, Exit.success) ∈ s.exits ∨ e = .success := by
        simpa [eq_comm] using hsuccess
      rcases hnew with hold | rfl
      · have hover := (h hold).1
        rw [hpc] at hover
        cases hover
      · have hplace := hinv.place
        rw [hpc] at hplace
        refine ⟨rfl, ?_⟩
        rw [State.requests, exit_publishes]
        exact hplace.2.mono hsub
  | finish hpc _ => exact ⟨rfl, (h hsuccess).2.mono hsub⟩

theorem succeeded_step {as : List Action} {s s' : State} {a : Action} (hinv : Inv args as s)
    (h : Succeeded args as s) (hs : step B args s a = some s') : Succeeded args (as ++ [a]) s' := by
  intro hsuccess
  have hsub : accepted as ⊆ accepted (as ++ [a]) := by
    rw [show accepted (as ++ [a]) = accepted as ++ accepted [a] from List.filterMap_append]
    exact List.subset_append_left _ _
  cases ha : a.isMain with
  | false =>
      obtain ⟨hbeside, _, hexits, _⟩ := callback_cases ha hs
      have hold : (Caller.main, Exit.success) ∈ s.exits := by
        cases hexits with
        | none hexits _ _ _ => exact hexits ▸ hsuccess
        | exit hexits _ _ _ => simpa [hexits] using hsuccess
      rw [hbeside.pc, hbeside.requests]
      exact (h hold).imp_right (ThingAsked.mono hsub)
  | true => exact h.main_step hinv hsub (isMain_cases ha hs) hsuccess

structure ProvisioningSpec (args : Args) (as : List Action) (s : State) : Prop where
  /-- the four subscriptions, then one request for a certificate, then one to register the thing,
  with the token of a response that was received -/
  orderly : Orderly args (accepted as) s.subscribed s.requests
  disconnects : s.disconnects = if s.exits = [] then 0 else 1
  /-- the main thread calls `exit` for each publish that had failed when its callback was added,
  and once at its end -/
  main : ∃ final : Option Exit,
    mainExits s.exits = s.reported .main ++ final.toList ∧ final.isSome = s.pc.isOver
  /-- a failed publish is told by the thread on which its callback has run -/
  reported : ∀ caller, ∀ e ∈ s.reported caller, (caller, e) ∈ s.exits
  finished : s.pc = .finished → s.isSampleDone = true
  success : (Caller.main, Exit.success) ∈ s.exits → ThingAsked args (accepted as) s.requests
  bounded : mainSteps as ≤ 140

theorem provisioning_run {as : List Action} {s : State}
    (hrun : run (step B args) {} as = some s) : ProvisioningSpec args as s where
  orderly := (inv_run hrun).place.orderly
  disconnects := by
    have h := ended_run hrun
    rw [h.disconnects]
    by_cases hexits : s.exits = []
    · rw [if_pos hexits, if_neg fun hcalled => h.called.mp hcalled hexits]
    · rw [if_neg hexits, if_pos (h.called.mpr hexits)]
  main := (told_run hrun).main
  reported := (told_run hrun).reported
  finished := (ended_run hrun).finished
  success := by
    have h : Inv args as s ∧ Succeeded args as s :=
      run_history (I := fun as s => Inv args as s ∧ Succeeded args as s)
        (fun _ _ _ _ hI hs => ⟨inv_step hI.1 hs, succeeded_step hI.1 hI.2 hs⟩) hrun
        ⟨⟨by simp, rfl, rfl⟩, by simp [Succeeded]⟩
    exact fun hsuccess => (h.2 hsuccess).2
  bounded := by
    have h := mainSteps_run hrun
    omega

theorem provisioning_run_rejected :
    let args : Args :=
      { csr := none, templateName := some "fleet", templateParameters := some (.obj []) }
    let response : Obj :=
      .instance IotIdentity.createKeysAndCertificateResponse
        [.none, .none, .json (.str "token"), .none]
    let rejection : Obj := .instance IotIdentity.errorResponse [.none, .none, .none]
    let as : List Action :=
      [.connected true, .main, .subscribed true, .main, .subscribed true, .main, .subscribed true,
        .main, .subscribed true, .main, .publish (.future none), .main, .main, .puback 0 (.ok none),
        .message 0 (some response), .main, .main, .main, .publish (.raises ()), .main,
        .message 3 (some rejection), .disconnected, .message 2 (some .none), .main, .main, .main]
    ∃ s, run (step Builtins.noText args) {} as = some s ∧ ProvisioningSpec args as s := by
  intro args response rejection as
  obtain ⟨s, hs⟩ : ∃ s, run (step Builtins.noText args) {} as = some s := ⟨_, rfl⟩
  exact ⟨s, hs, provisioning_run hs⟩

/-! ## The main thread alone -/

/-- After the subscriptions the main thread waits for nothing but the end. -/
def Pc.runs : Pc → Bool
  | .connecting | .subscribe _ | .subscribing _ | .waiting | .finished | .aborted => false
  | _ => true

def Pc.waitsFor (w : Wait) : Pc → Bool
  | .addCallback w' | .poll w' _ | .retest w' _ | .report w' _ | .sleep w' _ => w' = w
  | _ => false

/-- What the main thread will call `exit` with if no message comes. -/
inductive Heads (s : State) : Exit → Prop where
  | exiting {e} (hpc : s.pc = .exiting e) : Heads s e
  | thing (hpc : s.pc.waitsFor .thing = true) (hthing : s.thing = none) : Heads s .success
  | certificate (hpc : s.pc.waitsFor .certificate = true ∨ s.pc = .check)
      (hcertificate : s.certificate = none) : Heads s (.error .apiDidNotSucceed)

/-- What the main thread does next, if these are the replies to its publishes. -/
def next (replies : Wait → Reply Unit) : Pc → Action
  | .request => .publish (replies .certificate)
  | .register _ => .publish (replies .thing)
  | _ => .main

/-- A run of the main thread alone. -/
inductive Alone (B : Builtins) (args : Args) (replies : Wait → Reply Unit) :
    State → List Action → State → Prop where
  | nil (s) : Alone B args replies s [] s
  | cons {s s₁ s' bs} (hs : step B args s (next replies s.pc) = some s₁)
      (h : Alone B args replies s₁ bs s') : Alone B args replies s (next replies s.pc :: bs) s'

theorem Alone.run {replies : Wait → Reply Unit} {s s' : State} {bs : List Action}
    (h : Alone B args replies s bs s') : Machine.run (step B args) s bs = some s' := by
  induction h with
  | nil s => rfl
  | cons hs _ ih => exact run_cons_eq_some.mpr ⟨_, hs, ih⟩

theorem step_next {as : List Action} {s : State} (hinv : Inv args as s) (h : s.pc.runs = true)
    (replies : Wait → Reply Unit) :
    ∃ s', step B args s (next replies s.pc) = some s' ∧ MainCases args s s' := by
  suffices h' : ∃ s', step B args s (next replies s.pc) = some s' by
    obtain ⟨s', hs'⟩ := h'
    refine ⟨s', hs', ?_⟩
    cases hpc : s.pc with
    | request | register request =>
        rw [hpc] at hs'
        exact publishStep_cases hs'
    | _ =>
        rw [hpc] at hs'
        exact main_cases hs'
  cases hpc : s.pc with
  | request =>
      simp only [next, step, publishStep, hpc]
      split <;> exact ⟨_, rfl⟩
  | register request =>
      simp only [next, step, publishStep, hpc]
      exact ⟨_, rfl⟩
  | addCallback w =>
      have hplace := hinv.place
      rw [hpc] at hplace
      have hne : s.publishes ≠ [] := by
        rintro hnil
        rw [State.requests, hnil] at hplace
        cases w with
        | certificate => obtain ⟨_, _, _, hps⟩ := hplace; cases hps
        | thing => obtain ⟨_, _, _, _, _, hps⟩ := hplace; cases hps
      simp only [next, step, mainStep, hpc, List.getLast?_eq_some_getLast hne, Option.map_some]
      exact ⟨_, rfl⟩
  | poll w n | retest w n | report w n =>
      simp only [next, step, mainStep, hpc]
      split <;> exact ⟨_, rfl⟩
  | sleep w n | exiting e =>
      simp only [next, step, mainStep, hpc]
      exact ⟨_, rfl⟩
  | check =>
      simp only [next, step, mainStep, hpc]
      split <;> exact ⟨_, rfl⟩
  | prepare =>
      simp only [next, step, mainStep, hpc]
      split
      · exact ⟨_, rfl⟩
      · split <;> exact ⟨_, rfl⟩
  | connecting | subscribe k | subscribing k | waiting | finished | aborted =>
      rw [hpc] at h
      cases h

theorem waitsFor_loop {w w' : Wait} {n : Nat} {pc : Pc}
    (h : pc = .poll w' n ∨ pc = .retest w' n ∨ pc = .report w' n ∨ pc = .sleep w' n) :
    pc.waitsFor w = true ↔ w' = w := by
  rcases h with rfl | rfl | rfl | rfl <;> simp [Pc.waitsFor]

/-- A loop whose response does not come goes on, or ends. -/
theorem waits_moves {w : Wait} {s : State} {pc : Pc} (h : s.pc.waitsFor w = true)
    (hw : s.response w = none) (hmove : Moves args s pc) : pc.waitsFor w = true ∨ pc = w.after := by
  cases hmove with
  | @retest w' n hpc _ _ | @report w' n hpc _ | @sleep w' n hpc _ | @poll w' n hpc =>
      rw [hpc] at h
      exact .inl h
  | timeout hpc _ =>
      obtain rfl := (waitsFor_loop (.inl hpc)).mp h
      exact .inr rfl
  | @leave w' n hpc hw' =>
      obtain rfl : w' = w := by
        rcases hpc with hpc | hpc
        · exact (waitsFor_loop (.inl hpc)).mp h
        · exact (waitsFor_loop (.inr (.inl hpc))).mp h
      exact absurd hw hw'
  | notSerializable hpc hw' =>
      obtain rfl := (waitsFor_loop (.inr (.inr (.inl hpc)))).mp h
      exact absurd hw hw'
  | connected hpc | notConnected hpc | refused _ hpc | subscribed hpc _ | notSubscribed _ hpc
  | notRequested _ hpc | apiDidNotSucceed hpc _ | prepare hpc _ | notPrepared _ hpc
  | register hpc _ _ | notRegistered _ hpc =>
      rw [hpc] at h
      cases h

theorem Heads.main {s s' : State} {e : Exit} (h : Heads s e) (hs : MainCases args s s')
    (hpc : ∀ e, s.pc ≠ .exiting e) : Heads s' e := by
  cases h with
  | exiting hexiting => exact absurd hexiting (hpc _)
  | thing hwaits hthing =>
      cases hs with
      | move hmove =>
          rcases waits_moves hwaits hthing hmove with hwaits | rfl
          · exact .thing hwaits hthing
          · exact .exiting rfl
      | added hpc' _ _ =>
          rw [hpc'] at hwaits
          exact .thing hwaits hthing
      | told hpc' _ _ =>
          rw [hpc'] at hwaits
          exact .thing (by rw [onPublish_pc]; exact hwaits)
            ((onPublish_response _ _ _ .thing).trans hthing)
      | subscribe hpc' _ | subscribed hpc' | requested hpc' _ | registered hpc' | exit hpc'
      | finish hpc' _ =>
          rw [hpc'] at hwaits
          cases hwaits
  | certificate hwaits hcertificate =>
      cases hs with
      | move hmove =>
          rcases hwaits with hwaits | hcheck
          · rcases waits_moves hwaits hcertificate hmove with hwaits | rfl
            · exact .certificate (.inl hwaits) hcertificate
            · exact .certificate (.inr rfl) hcertificate
          · cases hmove with
            | apiDidNotSucceed _ _ => exact .exiting rfl
            | prepare _ hsome => exact absurd hcertificate hsome
            | leave hpc' _ =>
                rw [hcheck] at hpc'
                rcases hpc' with hpc' | hpc' <;> cases hpc'
            | connected hpc' | notConnected hpc' | refused _ hpc' | subscribed hpc' _
            | notSubscribed _ hpc' | notRequested _ hpc' | retest hpc' _ _ | timeout hpc' _
            | report hpc' _ | notSerializable hpc' _ | sleep hpc' _ | poll hpc' | notPrepared _ hpc'
            | register hpc' _ _ | notRegistered _ hpc' =>
                rw [hcheck] at hpc'
                cases hpc'
      | added hpc' _ _ =>
          rw [hpc'] at hwaits
          rcases hwaits with hwaits | hwaits
          · exact .certificate (.inl hwaits) hcertificate
          · cases hwaits
      | told hpc' _ _ =>
          rw [hpc'] at hwaits
          rcases hwaits with hwaits | hwaits
          · exact .certificate (.inl (by rw [onPublish_pc]; exact hwaits))
              ((onPublish_certificate _ _ _).trans hcertificate)
          · cases hwaits
      | subscribe hpc' _ | subscribed hpc' | requested hpc' _ | registered hpc' | exit hpc'
      | finish hpc' _ =>
          rw [hpc'] at hwaits
          rcases hwaits with hwaits | hwaits <;> cases hwaits

theorem Heads.exiting_eq {s : State} {e e' : Exit} (h : Heads s e') (hpc : s.pc = .exiting e) :
    e' = e := by
  cases h with
  | exiting hpc' =>
      rw [hpc] at hpc'
      cases hpc'
      rfl
  | thing hwaits _ =>
      rw [hpc] at hwaits
      cases hwaits
  | certificate hwaits _ =>
      rw [hpc] at hwaits
      rcases hwaits with hwaits | hwaits <;> cases hwaits

/-- The main thread calls `exit` for the publishes that it finds failed, and goes on. -/
theorem main_runs {s s' : State} (htold : Told s) (htold' : Told s') (h : s.pc.runs = true)
    (hs : MainCases args s s') (hpc : ∀ e, s.pc ≠ .exiting e) :
    s'.pc.runs = true ∧ ∃ failures : List Exit,
      s'.exits = s.exits ++ failures.map (Caller.main, ·) ∧
      s'.reported .main = s.reported .main ++ failures := by
  have hafter : ∀ w : Wait, w.after.runs = true := by
    intro w
    cases w <;> rfl
  have hover : ∀ {pc : Pc}, pc.runs = true → pc.isOver = false := by
    intro pc hruns
    cases pc <;> first | rfl | cases hruns
  suffices hsuffices : s'.pc.runs = true ∧
      ∃ failures : List Exit, s'.exits = s.exits ++ failures.map (Caller.main, ·) by
    obtain ⟨hruns, failures, hexits⟩ := hsuffices
    refine ⟨hruns, failures, hexits, ?_⟩
    rw [← htold'.mainExits_eq (hover hruns), ← htold.mainExits_eq (hover h), hexits]
    simp [mainExits]
  cases hs with
  | move hmove =>
      refine ⟨?_, [], (List.append_nil _).symm⟩
      cases hmove with
      | timeout _ _ | leave _ _ => exact hafter _
      | connected hpc' | notConnected hpc' | refused _ hpc' | subscribed hpc' _
      | notSubscribed _ hpc' =>
          rw [hpc'] at h
          cases h
      | notRequested _ _ | retest _ _ _ | report _ _ | notSerializable _ _ | sleep _ _ | poll _
      | apiDidNotSucceed _ _ | prepare _ _ | notPrepared _ _ | register _ _ _
      | notRegistered _ _ => rfl
  | requested _ _ | registered _ | added _ _ _ => exact ⟨rfl, [], (List.append_nil _).symm⟩
  | @told w ps p _ _ _ =>
      exact ⟨by rw [onPublish_pc]; rfl, _,
        onPublish_exits_eq _ (p := { p with callback := .ran .main }) rfl⟩
  | subscribe hpc' _ | subscribed hpc' | finish hpc' _ =>
      rw [hpc'] at h
      cases h
  | exit hpc' => exact absurd hpc' (hpc _)

theorem main_alone {as : List Action} {s : State} (hrun : run (step B args) {} as = some s)
    (h : s.pc.runs = true) (replies : Wait → Reply Unit) :
    ∃ bs s', bs.length ≤ rank s.pc ∧ Alone B args replies s bs s' ∧ s'.pc = .waiting ∧
      ∃ failures e, s'.exits = s.exits ++ failures.map (Caller.main, ·) ++ [(.main, e)] ∧
        s'.reported .main = s.reported .main ++ failures ∧ ∀ e', Heads s e' → e = e' := by
  induction hrank : rank s.pc using Nat.strongRecOn generalizing as s with
  | _ r ih =>
      obtain ⟨s₁, hs₁, hcases⟩ := step_next (inv_run hrun) h replies
      have hrun₁ : run (step B args) {} (as ++ [next replies s.pc]) = some s₁ :=
        run_append_eq_some.mpr ⟨s, hrun, run_singleton_eq_some.mpr hs₁⟩
      by_cases hexiting : ∃ e, s.pc = .exiting e
      · obtain ⟨e, hpc⟩ := hexiting
        have hs₁' : s₁ = { FleetProvisioning.exit s .main e with pc := .waiting } := by
          simp only [next, step, mainStep, hpc, Option.some.injEq] at hs₁
          exact hs₁.symm
        refine ⟨[next replies s.pc], s₁, ?_, .cons hs₁ (.nil _), by rw [hs₁'], [], e, ?_, ?_, ?_⟩
        · rw [← hrank, hpc]
          exact Nat.le_add_left 1 1
        · simp [hs₁']
        · simp [hs₁', State.reported]
        · exact fun e' hheads => (hheads.exiting_eq hpc).symm
      · have hpc : ∀ e, s.pc ≠ .exiting e := fun e he => hexiting ⟨e, he⟩
        obtain ⟨hruns, failures, hexits, hreported⟩ :=
          main_runs (told_run hrun) (told_run hrun₁) h hcases hpc
        have hlt : rank s₁.pc < r := hrank ▸ rank_main (inv_run hrun) hcases
        obtain ⟨bs, s', hlength, halone, hend, failures', e, hexits', hreported', hheads⟩ :=
          ih _ hlt hrun₁ hruns rfl
        refine ⟨next replies s.pc :: bs, s', Nat.lt_of_le_of_lt hlength hlt, .cons hs₁ halone, hend,
          failures ++ failures', e, ?_, ?_, fun e' he' => hheads e' (he'.main hcases hpc)⟩
        · rw [hexits', hexits, List.map_append, List.append_assoc s.exits]
        · rw [hreported', hreported, List.append_assoc]

theorem Place.rank_le {responses : List Obj} {pc : Pc} {n : Nat}
    {ps : List (PublishOperation × Request)} (h : pc.runs = true)
    (hp : Place args responses pc n ps) : rank pc ≤ 130 := by
  cases pc with
  | connecting | subscribe k | subscribing k | waiting | finished | aborted => cases h
  | request | check | prepare | register request | exiting e => simp [rank]
  | addCallback w => cases w <;> simp [rank]
  | poll w k | retest w k | report w k | sleep w k =>
      cases w <;> simp only [rank] <;> omega

theorem mainThread_alone {as : List Action} {s : State}
    (hrun : run (step B args) {} as = some s) (hruns : s.pc.runs = true)
    (replies : Wait → Reply Unit) :
    ∃ bs s', bs.length ≤ 130 ∧ Alone B args replies s bs s' ∧ s'.pc = .waiting ∧
      s'.disconnects = 1 ∧
      ∃ failures e, s'.exits = s.exits ++ failures.map (Caller.main, ·) ++ [(.main, e)] ∧
        s'.reported .main = s.reported .main ++ failures ∧ ∀ e', Heads s e' → e = e' := by
  obtain ⟨bs, s', hlength, halone, hpc, failures, e, hexits, hreported, hheads⟩ :=
    main_alone hrun hruns replies
  have hended := ended_run (run_append_eq_some.mpr ⟨s, hrun, halone.run⟩)
  have hdisconnects : s'.disconnects = 1 := by
    rw [hended.disconnects, if_pos (hended.called.mpr (by simp [hexits]))]
  exact ⟨bs, s', Nat.le_trans hlength ((inv_run hrun).place.rank_le hruns), halone, hpc,
    hdisconnects, failures, e, hexits, hreported, hheads⟩

theorem mainThread_alone_timeout :
    let args : Args :=
      { csr := some (some "csr"), templateName := some "fleet",
        templateParameters := some (.obj []) }
    let as : List Action :=
      [.connected true, .main, .subscribed true, .main, .subscribed true, .main, .subscribed true,
        .main, .subscribed true, .main]
    let replies : Wait → Reply Unit := fun _ => .raises ()
    ∃ s, run (step Builtins.noText args) {} as = some s ∧
      ∃ bs s', bs.length ≤ 130 ∧ Alone Builtins.noText args replies s bs s' ∧ s'.pc = .waiting ∧
        s'.disconnects = 1 ∧
        ∃ failures e, s'.exits = s.exits ++ failures.map (Caller.main, ·) ++ [(.main, e)] ∧
          s'.reported .main = s.reported .main ++ failures ∧ ∀ e', Heads s e' → e = e' := by
  intro args as replies
  obtain ⟨s, hs, hruns⟩ : ∃ s, run (step Builtins.noText args) {} as = some s ∧
      s.pc.runs = true := ⟨_, rfl, rfl⟩
  exact ⟨s, hs, mainThread_alone hs hruns replies⟩

end IotCore.FleetProvisioning
