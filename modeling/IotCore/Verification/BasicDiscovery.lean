import IotCore.Model.BasicDiscovery
import IotCore.Verification.Discovery
import IotCore.Verification.JsonCodec

/-! # Runs of the discovery sample

The three loops of the sample are one pass over the endpoints of the document that the service
sent, in its order, which ends at the first that answers. -/

namespace IotCore.BasicDiscovery

open Machine
open Mqtt (Obj Builtins Member ModeledClass)
open Greengrass (Exc)
open Discovery (connectivityInfo ggCore ggGroup discoverResponse)
open CancellableFuture (uncancelled)

variable {B : Builtins} {args : Args}

/-! ## Places -/

/-- What the loops come to. -/
inductive Place where
  | endpoint (e : Endpoint)
  /-- a loop that raises -/
  | raises (e : Exc)

def placesOf {α : Type} (items : Except Exc (List α)) (places : α → List Place) : List Place :=
  match items with
  | .error e => [.raises e]
  | .ok items => items.flatMap places

/-! ### Of a response -/

def infoPlaces (ggGroup ggCore info : Obj) : List Place :=
  ((endpoint ggGroup ggCore info).map Place.endpoint).toList

def corePlaces (ggGroup ggCore : Obj) : List Place :=
  placesOf (members ggCore "connectivity") (infoPlaces ggGroup ggCore)

def groupPlaces (ggGroup : Obj) : List Place :=
  placesOf (members ggGroup "cores") (corePlaces ggGroup)

def responsePlaces (response : Obj) : List Place :=
  placesOf (members response "gg_groups") groupPlaces

/-! ### Of a document -/

/-- The member of an object, or null. -/
def member (payload : Json) (key : String) : Json :=
  match payload with
  | .obj fields => (fields.lookup key).getD .null
  | _ => .null

/-- The first certificate authority of a group. -/
def authority (group : Json) : Option (List UInt8) :=
  match member group "CAs" with
  | .arr (.str ca :: _) => some (JsonText.encodeUtf8 ca.toList)
  | .str cas => cas.toList.head?.map fun c => JsonText.encodeUtf8 [c]
  | _ => none

/-- The endpoint of an entry of the document. -/
def entry (group info : Json) : Option Endpoint :=
  (authority group).map fun ca =>
    ⟨.json (member info "HostAddress"), .json (member info "PortNumber"), ca⟩

/-- The elements of a list; a loop over None raises a TypeError. -/
def elements : Json → Except Exc (List Json)
  | .null => .error .typeError
  | value => .ok ((Greengrass.iterate value).toOption.getD [])

/-- The endpoints of a document, in its order; a group without an authority has none. -/
def documentPlaces (document : Json) : List Place :=
  placesOf (elements (member document "GGGroups")) fun group =>
    placesOf (elements (member group "Cores")) fun core =>
      placesOf (elements (member core "Connectivity")) fun info =>
        ((entry group info).map Place.endpoint).toList

/-! ### A response has the places of its document -/

theorem member_of_member {payload value : Json} {key : String} (h : Member payload key value) :
    member payload key = value := by
  obtain ⟨fields, rfl, hvalue⟩ := h
  exact hvalue

theorem flatMap_eq_of_forall₂ {α β γ : Type} {R : α → β → Prop} {f : α → List γ} {g : β → List γ}
    {xs : List α} {ys : List β} (h : List.Forall₂ R xs ys) (hfg : ∀ x y, R x y → g y = f x) :
    ys.flatMap g = xs.flatMap f := by
  induction h with
  | nil => rfl
  | cons hxy _ ih => rw [List.flatMap_cons, List.flatMap_cons, hfg _ _ hxy, ih]

section

variable {cls cls' : ModeledClass} {attr key : String} {payload : Json} {x : Obj}

theorem getattr_plain (h : cls.Represents B payload x)
    (hnodup : (cls.slots.map Mqtt.Slot.attr).Nodup)
    (hslot : (⟨attr, key, .plain⟩ : Mqtt.Slot) ∈ cls.slots) :
    x.getattr attr = .ok (.json (member payload key)) := by
  obtain ⟨y, hy, value, hvalue, hreads⟩ := Mqtt.getattr_of_represents h hnodup hslot
  rw [hy, member_of_member hvalue]
  rcases hreads with ⟨rfl, rfl⟩ | ⟨_, hreads⟩
  · rfl
  · rw [Mqtt.Kind.Represents] at hreads
    rw [hreads]

theorem placesOf_members (h : cls.Represents B payload x)
    (hnodup : (cls.slots.map Mqtt.Slot.attr).Nodup)
    (hslot : (⟨attr, key, .list cls'⟩ : Mqtt.Slot) ∈ cls.slots) {places : Json → List Place}
    {places' : Obj → List Place} (hplaces : ∀ v y, cls'.Represents B v y → places' y = places v) :
    placesOf (members x attr) places' = placesOf (elements (member payload key)) places := by
  obtain ⟨y, hy, value, hvalue, hreads⟩ := Mqtt.getattr_of_represents h hnodup hslot
  have hmembers : members x attr = iterate y := by
    rw [members, hy]
    rfl
  rw [hmembers, member_of_member hvalue]
  rcases hreads with ⟨rfl, rfl⟩ | ⟨hne, hreads⟩
  · rfl
  · rw [Mqtt.Kind.Represents] at hreads
    obtain ⟨values, xs, hvalues, hall, rfl⟩ := hreads
    have helements : elements value = .ok values := by
      cases value with
      | null => exact absurd rfl hne
      | _ => rw [elements, hvalues] <;> first | rfl | simp
    rw [helements]
    exact flatMap_eq_of_forall₂ hall hplaces

end

theorem endpoint_eq {group core info : Json} {group' core' info' : Obj}
    (hgroup : ggGroup.Represents B group group') (hcore : ggCore.Represents B core core')
    (hinfo : connectivityInfo.Represents B info info') :
    endpoint group' core' info' = entry group info := by
  have harn : core'.getattr "thing_arn" = .ok (.json (member core "thingArn")) :=
    getattr_plain hcore (by decide) (by simp [ggCore])
  have hhost : info'.getattr "host_address" = .ok (.json (member info "HostAddress")) :=
    getattr_plain hinfo (by decide) (by simp [connectivityInfo])
  have hport : info'.getattr "port" = .ok (.json (member info "PortNumber")) :=
    getattr_plain hinfo (by decide) (by simp [connectivityInfo])
  have hcas : group'.getattr "certificate_authorities" = .ok (.json (member group "CAs")) :=
    getattr_plain hgroup (by decide) (by simp [ggGroup])
  have hca : caBytes group' = authority group := by
    rw [caBytes, hcas, authority]
    cases member group "CAs" with
    | arr values =>
        cases values with
        | nil => rfl
        | cons value values => cases value <;> rfl
    | _ => rfl
  rw [endpoint, harn, hhost, hport, hca, entry]
  cases authority group <;> rfl

theorem responsePlaces_eq {document : Json} {response : Obj}
    (h : discoverResponse.Represents B document response) :
    responsePlaces response = documentPlaces document := by
  have hgroups : (⟨"gg_groups", "GGGroups", .list ggGroup⟩ : Mqtt.Slot) ∈ discoverResponse.slots :=
    List.mem_singleton.mpr rfl
  have hcores : (⟨"cores", "Cores", .list ggCore⟩ : Mqtt.Slot) ∈ ggGroup.slots := by
    simp [ggGroup]
  have hinfos : (⟨"connectivity", "Connectivity", .list connectivityInfo⟩ : Mqtt.Slot) ∈
      ggCore.slots := by simp [ggCore]
  refine placesOf_members h (by decide) hgroups fun group group' hgroup => ?_
  refine placesOf_members hgroup (by decide) hcores fun core core' hcore => ?_
  refine placesOf_members hcore (by decide) hinfos fun info info' hinfo => ?_
  rw [infoPlaces, endpoint_eq hgroup hcore hinfo]

theorem raises_of_mem_placesOf {items : Except Exc (List Json)} {places : Json → List Place}
    {value : Json} (hitems : items = elements value) {e : Exc}
    (hplaces : ∀ item, .raises e ∈ places item → e = .typeError)
    (h : .raises e ∈ placesOf items places) : e = .typeError := by
  subst items
  cases hvalue : elements value with
  | error e' =>
      obtain rfl : e' = .typeError := by
        cases value <;> cases hvalue
        rfl
      rw [hvalue, placesOf, List.mem_singleton] at h
      cases h
      rfl
  | ok items =>
      rw [hvalue, placesOf, List.mem_flatMap] at h
      obtain ⟨item, _, hitem⟩ := h
      exact hplaces item hitem

theorem raises_of_mem_documentPlaces {document : Json} {e : Exc}
    (h : .raises e ∈ documentPlaces document) : e = .typeError := by
  refine raises_of_mem_placesOf rfl (fun group hgroup => ?_) h
  refine raises_of_mem_placesOf rfl (fun core hcore => ?_) hgroup
  refine raises_of_mem_placesOf rfl (fun info hinfo => ?_) hcore
  cases hentry : entry group info <;> simp [hentry] at hinfo

/-! ## The loops -/

/-- In one of the loops, and not in an attempt. -/
def Pc.isSearching : Pc → Bool
  | .groups _ | .cores _ _ _ | .infos _ _ _ _ _ => true
  | _ => false

/-- What the loops have left. -/
def Pc.rest : Pc → List Place
  | .groups ggGroups => ggGroups.flatMap groupPlaces
  | .cores ggGroup ggCores ggGroups =>
      ggCores.flatMap (corePlaces ggGroup) ++ ggGroups.flatMap groupPlaces
  | .infos ggGroup ggCore connectivity ggCores ggGroups
  | .connecting _ ggGroup ggCore connectivity ggCores ggGroups =>
      connectivity.flatMap (infoPlaces ggGroup ggCore) ++
        (ggCores.flatMap (corePlaces ggGroup) ++ ggGroups.flatMap groupPlaces)
  | _ => []

/-- The loops as one loop over the places. -/
inductive Scan (s : State) : State → Prop where
  | walk {pc} (hpc : pc.isSearching = true) (hrest : s.pc.rest = pc.rest) : Scan s { s with pc }
  | raises {e rest} (hrest : s.pc.rest = .raises e :: rest) :
      Scan s { s with pc := .aborted (.builtin e) }
  | exhausted (hrest : s.pc.rest = []) : Scan s { s with pc := .exited }
  | attempt {e ggGroup ggCore infos cores ggGroups}
      (hrest : s.pc.rest =
        .endpoint e :: (Pc.connecting e ggGroup ggCore infos cores ggGroups).rest) :
      Scan s { s with
        tried := s.tried ++ [e], pc := .connecting e ggGroup ggCore infos cores ggGroups }

theorem scan_of_mainStep {s s' : State} (hpc : s.pc.isSearching = true)
    (h : mainStep B args s = some s') : Scan s s' := by
  cases hs : s.pc with
  | groups ggGroups =>
      cases ggGroups with
      | nil =>
          simp only [mainStep, hs] at h
          cases h
          exact .exhausted (by rw [hs]; rfl)
      | cons ggGroup ggGroups =>
          simp only [mainStep, hs] at h
          split at h
          · rename_i e hcores
            cases h
            have hrest : s.pc.rest = .raises e :: ggGroups.flatMap groupPlaces := by
              simp [hs, Pc.rest, groupPlaces, hcores, placesOf]
            exact .raises hrest
          · rename_i hcores
            cases h
            exact .walk rfl (by simp [hs, Pc.rest, groupPlaces, hcores, placesOf])
  | cores ggGroup cores ggGroups =>
      cases cores with
      | nil =>
          simp only [mainStep, hs] at h
          cases h
          exact .walk rfl (by rw [hs]; rfl)
      | cons ggCore cores =>
          simp only [mainStep, hs] at h
          split at h
          · rename_i e hinfos
            cases h
            have hrest : s.pc.rest = .raises e :: (Pc.cores ggGroup cores ggGroups).rest := by
              simp [hs, Pc.rest, corePlaces, hinfos, placesOf]
            exact .raises hrest
          · rename_i hinfos
            cases h
            exact .walk rfl (by simp [hs, Pc.rest, corePlaces, hinfos, placesOf])
  | infos ggGroup ggCore infos cores ggGroups =>
      cases infos with
      | nil =>
          simp only [mainStep, hs] at h
          cases h
          exact .walk rfl (by rw [hs]; rfl)
      | cons info infos =>
          simp only [mainStep, hs] at h
          split at h <;> rename_i he <;> cases h
          · exact .walk rfl (by simp [hs, Pc.rest, infoPlaces, he])
          · exact .attempt (by simp [hs, Pc.rest, infoPlaces, he])
  | _ =>
      rw [hs] at hpc
      cases hpc

/-! ## Runs -/

/-- The outcomes of the attempts. -/
def attempts (as : List Action) : List Bool :=
  as.filterMap fun
    | .attempt ok => some ok
    | _ => none

/-- The first messages. -/
def messages (B : Builtins) (args : Args) (n : Nat) : List (List Char) :=
  (List.range n).map (messageJson B args)

/-- Every attempt has failed. -/
structure Failing (places : List Place) (outcomes : List Bool) (s : State) (rest : List Place) :
    Prop where
  connection : s.mqttConnection = none
  places : places = s.tried.map .endpoint ++ rest
  outcomes : outcomes = List.replicate s.tried.length false

/-- Every attempt before the last has failed, and what became of the last. -/
structure Attempted (places : List Place) (outcomes : List Bool) (s : State) (rest : List Place)
    (e : Endpoint) (last : List Bool) : Prop where
  places : places = s.tried.map .endpoint ++ rest
  outcomes : ∃ earlier, s.tried = earlier ++ [e] ∧
    outcomes = List.replicate earlier.length false ++ last

def Search (places : List Place) (outcomes : List Bool) (s : State) : Prop :=
  match s.pc with
  | .groups _ | .cores _ _ _ | .infos _ _ _ _ _ => Failing places outcomes s s.pc.rest
  | .exited => Failing places outcomes s []
  | .aborted (.builtin e) => ∃ rest, Failing places outcomes s (.raises e :: rest)
  | .connecting e _ _ _ _ _ =>
      s.mqttConnection = none ∧ Attempted places outcomes s s.pc.rest e []
  | _ => ∃ e rest, s.mqttConnection = some e ∧ Attempted places outcomes s rest e [true]

def Published (B : Builtins) (args : Args) (published : List (List Char)) : Pc → Prop
  | .loop n | .sleep n =>
      published = messages B args n ∧ n ≤ args.maxPubOps.toNat ∧
        (args.publishes = false → n = 0)
  | .publishing n =>
      published = messages B args (n + 1) ∧ n < args.maxPubOps ∧ args.publishes = true
  | .aborted .publish =>
      ∃ n : Nat, published = messages B args n ∧ n ≤ args.maxPubOps ∧ args.publishes = true
  | .finished =>
      if args.publishes then published = messages B args args.maxPubOps.toNat
      else published = [] ∧ args.maxPubOps ≤ 0
  | _ => published = []

structure Inv (B : Builtins) (args : Args) (places : List Place) (as : List Action) (s : State) :
    Prop where
  search : Search places (attempts as) s
  published : Published B args s.published s.pc

theorem search_iff_of_isSearching {places : List Place} {outcomes : List Bool} {s : State}
    (hpc : s.pc.isSearching = true) :
    Search places outcomes s ↔ Failing places outcomes s s.pc.rest := by
  rw [Search]
  cases hs : s.pc with
  | groups _ | cores _ _ _ | infos _ _ _ _ _ => rfl
  | _ =>
      rw [hs] at hpc
      cases hpc

theorem published_of_isSearching {published : List (List Char)} {pc : Pc}
    (hpc : pc.isSearching = true) : Published B args published pc ↔ published = [] := by
  cases pc with
  | groups _ | cores _ _ _ | infos _ _ _ _ _ => rfl
  | _ => cases hpc

theorem Inv.scan {places : List Place} {as : List Action} {s s' : State}
    (h : Inv B args places as s) (hpc : s.pc.isSearching = true) (hs : Scan s s') :
    Inv B args places as s' := by
  obtain ⟨hsearch, hpublished⟩ := h
  rw [search_iff_of_isSearching hpc] at hsearch
  rw [published_of_isSearching hpc] at hpublished
  obtain ⟨hconnection, hplaces, houtcomes⟩ := hsearch
  cases hs with
  | walk hpc' hrest =>
      refine ⟨(search_iff_of_isSearching hpc').mpr ⟨hconnection, ?_, houtcomes⟩,
        (published_of_isSearching hpc').mpr hpublished⟩
      rw [hplaces, hrest]
  | @raises e rest hrest =>
      exact ⟨⟨rest, hconnection, hrest ▸ hplaces, houtcomes⟩, hpublished⟩
  | exhausted hrest => exact ⟨⟨hconnection, hrest ▸ hplaces, houtcomes⟩, hpublished⟩
  | attempt hrest =>
      refine ⟨⟨hconnection, ?_, s.tried, rfl, ?_⟩, hpublished⟩
      · rw [hplaces, hrest]
        simp [Pc.rest]
      · simpa using houtcomes

/-- What is known of the search once it is over. -/
theorem Inv.connected {places : List Place} {as : List Action} {s s' : State}
    (h : ∃ e rest, s.mqttConnection = some e ∧ Attempted places (attempts as) s rest e [true])
    (htried : s'.tried = s.tried) (hconnection : s'.mqttConnection = s.mqttConnection) :
    ∃ e rest, s'.mqttConnection = some e ∧ Attempted places (attempts as) s' rest e [true] := by
  obtain ⟨e, rest, he, hplaces, houtcomes⟩ := h
  exact ⟨e, rest, hconnection.trans he, htried ▸ hplaces, htried ▸ houtcomes⟩

theorem messages_succ (n : Nat) :
    messages B args (n + 1) = messages B args n ++ [messageJson B args n] := by
  simp [messages, List.range_succ]

theorem Inv.main {places : List Place} {as : List Action} {s s' : State}
    (h : Inv B args places as s) (hs : mainStep B args s = some s') :
    Inv B args places as s' := by
  cases hpc : s.pc with
  | groups _ | cores _ _ _ | infos _ _ _ _ _ =>
      have hsearching : s.pc.isSearching = true := by
        rw [hpc]
        rfl
      exact h.scan hsearching (scan_of_mainStep hsearching hs)
  | connected =>
      obtain ⟨hsearch, hpublished⟩ := h
      simp only [mainStep, hpc] at hs
      simp only [Search, Published, hpc] at hsearch hpublished
      split at hs <;> cases hs
      · exact ⟨Inv.connected hsearch rfl rfl, hpublished⟩
      · refine ⟨Inv.connected hsearch rfl rfl, ?_⟩
        simp [Published, hpublished, messages]
  | loop n =>
      obtain ⟨hsearch, hpublished⟩ := h
      simp only [mainStep, hpc] at hs
      simp only [Search, Published, hpc] at hsearch hpublished
      obtain ⟨hmessages, hn, hquiet⟩ := hpublished
      split at hs
      · split at hs <;> cases hs
        · rename_i hlt hpublishes
          refine ⟨Inv.connected hsearch rfl rfl, ?_, hlt, hpublishes⟩
          rw [hmessages, messages_succ]
        · exact ⟨Inv.connected hsearch rfl rfl, hmessages, hn, hquiet⟩
      · rename_i hge
        cases hs
        refine ⟨Inv.connected hsearch rfl rfl, ?_⟩
        simp only [Published]
        split
        · have heq : n = args.maxPubOps.toNat := by omega
          rw [hmessages, heq]
        · rename_i hpublishes
          have hzero := hquiet (by simpa using hpublishes)
          subst hzero
          exact ⟨hmessages, by omega⟩
  | sleep n =>
      obtain ⟨hsearch, hpublished⟩ := h
      simp only [mainStep, hpc] at hs
      cases hs
      simp only [Search, Published, hpc] at hsearch hpublished
      exact ⟨Inv.connected hsearch rfl rfl, hpublished⟩
  | _ => simp [mainStep, hpc] at hs

theorem inv_step {places : List Place} {as : List Action} {s s' : State} {a : Action}
    (h : Inv B args places as s) (hs : step B args s a = some s') :
    Inv B args places (as ++ [a]) s' := by
  have hquiet : attempts [a] = [] → attempts (as ++ [a]) = attempts as := by
    intro hnil
    rw [attempts, List.filterMap_append]
    exact (congrArg _ hnil).trans (List.append_nil _)
  cases a with
  | main =>
      have hmain := h.main hs
      exact ⟨(hquiet rfl).symm ▸ hmain.search, hmain.published⟩
  | attempt ok =>
      simp only [step] at hs
      split at hs
      · rename_i e ggGroup ggCore infos cores ggGroups hpc
        obtain ⟨hsearch, hpublished⟩ := h
        simp only [Search, Published, hpc] at hsearch hpublished
        obtain ⟨hconnection, hplaces, earlier, htried, houtcomes⟩ := hsearch
        have hattempts : attempts (as ++ [.attempt ok]) =
            List.replicate earlier.length false ++ [ok] := by
          rw [attempts, List.filterMap_append]
          exact congrArg (· ++ [ok]) (houtcomes.trans (List.append_nil _))
        split at hs <;> cases hs
        · rename_i hok
          subst hok
          exact ⟨⟨e, _, rfl, hplaces, earlier, htried, hattempts⟩, hpublished⟩
        · rename_i hok
          refine ⟨⟨hconnection, hplaces, ?_⟩, hpublished⟩
          have hlength : s.tried.length = earlier.length + 1 := by simp [htried]
          rw [hattempts, hlength, List.replicate_succ']
          simpa using hok
      · cases hs
  | subscribed ok =>
      simp only [step] at hs
      split at hs <;> cases hs
      rename_i hpc
      obtain ⟨hsearch, hpublished⟩ := h
      simp only [Search, Published, hpc] at hsearch hpublished
      cases ok with
      | true =>
          refine ⟨(hquiet rfl).symm ▸ Inv.connected hsearch rfl rfl, ?_⟩
          simp [Published, hpublished, messages]
      | false => exact ⟨(hquiet rfl).symm ▸ Inv.connected hsearch rfl rfl, hpublished⟩
  | published ok =>
      simp only [step] at hs
      split at hs <;> cases hs
      rename_i n hpc
      obtain ⟨hsearch, hpublished⟩ := h
      simp only [Search, Published, hpc] at hsearch hpublished
      obtain ⟨hmessages, hn, hpublishes⟩ := hpublished
      cases ok with
      | true =>
          refine ⟨(hquiet rfl).symm ▸ Inv.connected hsearch rfl rfl, hmessages, by omega, ?_⟩
          simp [hpublishes]
      | false =>
          refine ⟨(hquiet rfl).symm ▸ Inv.connected hsearch rfl rfl, n + 1, hmessages, ?_,
            hpublishes⟩
          omega

theorem inv_run {response : Obj} {as : List Action} {s : State}
    (hprint : args.printDiscoverRespOnly = false)
    (hrun : run (step B args) (start args response) as = some s) :
    Inv B args (responsePlaces response) as s := by
  refine run_history (I := Inv B args (responsePlaces response))
    (fun _ _ _ _ h hs => inv_step h hs) hrun ?_
  rw [start, if_neg (by simp [hprint]), responsePlaces]
  cases members response "gg_groups" with
  | error e => exact ⟨⟨[], rfl, rfl, rfl⟩, rfl⟩
  | ok ggGroups => exact ⟨⟨rfl, rfl, rfl⟩, rfl⟩

/-! ## The sample -/

def messageOf (args : Args) (n : Nat) : Json :=
  .obj [("message", .str args.message), ("sequence", .int n)]

/-- What the sample does with the endpoints of a document. -/
structure SampleSpec (B : Builtins) (args : Args) (document : Json) (as : List Action)
    (s : State) : Prop where
  /-- the endpoints are tried in the order of the document, each once -/
  tried : ∃ rest, documentPlaces document = s.tried.map .endpoint ++ rest
  /-- the first that answers is the connection, and the last that is tried -/
  connection : ∀ e, s.mqttConnection = some e → ∃ earlier, s.tried = earlier ++ [e] ∧
    attempts as = List.replicate earlier.length false ++ [true]
  failing : s.mqttConnection = none → ∀ ok ∈ attempts as, ok = false
  exited : s.pc = .exited → documentPlaces document = s.tried.map .endpoint ∧
    attempts as = List.replicate s.tried.length false
  /-- at a list that is null -/
  raised : ∀ e, s.pc = .aborted (.builtin e) → e = .typeError ∧
    (∃ rest, documentPlaces document = s.tried.map .endpoint ++ .raises .typeError :: rest) ∧
      attempts as = List.replicate s.tried.length false
  /-- the messages are numbered from 0, and sent to the connection -/
  published : List.Forall₂ (fun text n => Json.loads B.toInterpreter text = some (messageOf args n))
    s.published (List.range s.published.length)
  bounded : s.published.length ≤ args.maxPubOps.toNat
  publishes : s.published ≠ [] → args.publishes = true ∧ ∃ e, s.mqttConnection = some e
  finished : s.pc = .finished → (∃ e, s.mqttConnection = some e) ∧
    if args.publishes then s.published.length = args.maxPubOps.toNat else args.maxPubOps ≤ 0

/-- Numbers below one that `int` has read are written and read. -/
theorem loads_messageJson (hargs : B.toInterpreter.converts args.maxPubOps = true) {n : Nat}
    (hn : n < args.maxPubOps) :
    Json.loads B.toInterpreter (messageJson B args n) = some (messageOf args n) := by
  have hconverts : B.toInterpreter.converts n = true := by
    cases hdigits : B.maxStrDigits with
    | none => simp [Json.Interpreter.converts, hdigits]
    | some digits =>
        simp only [Json.Interpreter.converts, hdigits, Option.all_some, decide_eq_true_eq,
          Int.natAbs_natCast] at hargs ⊢
        omega
  exact Json.loads_dumps ⟨by simp, trivial, hconverts, trivial⟩

theorem forall₂_messages (hargs : B.toInterpreter.converts args.maxPubOps = true) {n : Nat}
    (hn : n ≤ args.maxPubOps.toNat) :
    List.Forall₂ (fun text i => Json.loads B.toInterpreter text = some (messageOf args i))
      (messages B args n) (List.range n) := by
  rw [messages, List.forall₂_map_left_iff, List.forall₂_same]
  intro i hi
  rw [List.mem_range] at hi
  exact loads_messageJson hargs (by omega)

theorem Search.cases {places : List Place} {outcomes : List Bool} {s : State}
    (h : Search places outcomes s) :
    (∃ rest, Failing places outcomes s rest) ∨
      (∃ e rest, s.mqttConnection = none ∧ Attempted places outcomes s rest e []) ∨
      ∃ e rest, s.mqttConnection = some e ∧ Attempted places outcomes s rest e [true] := by
  rw [Search] at h
  split at h
  · exact .inl ⟨_, h⟩
  · exact .inl ⟨_, h⟩
  · exact .inl ⟨_, h⟩
  · exact .inl ⟨_, h⟩
  · obtain ⟨rest, h⟩ := h
    exact .inl ⟨_, h⟩
  · exact .inr (.inl ⟨_, _, h⟩)
  · exact .inr (.inr h)

/-- Messages are published over a connection. -/
theorem Inv.messages_eq {places : List Place} {as : List Action} {s : State}
    (h : Inv B args places as s) : ∃ n, s.published = messages B args n ∧
      n ≤ args.maxPubOps.toNat ∧
      (s.published ≠ [] → args.publishes = true ∧ ∃ e, s.mqttConnection = some e) := by
  obtain ⟨hsearch, hpublished⟩ := h
  cases hpc : s.pc with
  | loop n | sleep n =>
      simp only [Search, Published, hpc] at hsearch hpublished
      obtain ⟨hmessages, hn, hquiet⟩ := hpublished
      obtain ⟨e, _, he, _⟩ := hsearch
      refine ⟨n, hmessages, hn, fun hne => ⟨?_, e, he⟩⟩
      by_contra hpublishes
      rw [hquiet (by simpa using hpublishes)] at hmessages
      exact hne hmessages
  | publishing n =>
      simp only [Search, Published, hpc] at hsearch hpublished
      obtain ⟨hmessages, hn, hpublishes⟩ := hpublished
      obtain ⟨e, _, he, _⟩ := hsearch
      exact ⟨n + 1, hmessages, by omega, fun _ => ⟨hpublishes, e, he⟩⟩
  | finished =>
      simp only [Search, Published, hpc] at hsearch hpublished
      obtain ⟨e, _, he, _⟩ := hsearch
      split at hpublished
      · rename_i hpublishes
        exact ⟨_, hpublished, Nat.le_refl _, fun _ => ⟨hpublishes, e, he⟩⟩
      · exact ⟨0, hpublished.1, Nat.zero_le _, fun hne => absurd hpublished.1 hne⟩
  | aborted e =>
      cases e with
      | publish =>
          simp only [Search, Published, hpc] at hsearch hpublished
          obtain ⟨n, hmessages, hn, hpublishes⟩ := hpublished
          obtain ⟨e, _, he, _⟩ := hsearch
          exact ⟨n, hmessages, by omega, fun _ => ⟨hpublishes, e, he⟩⟩
      | builtin e | subscription =>
          simp only [Published, hpc] at hpublished
          exact ⟨0, hpublished, Nat.zero_le _, fun hne => absurd hpublished hne⟩
  | groups _ | cores _ _ _ | infos _ _ _ _ _ | connecting _ _ _ _ _ _ | connected | subscribing
  | exited =>
      simp only [Published, hpc] at hpublished
      exact ⟨0, hpublished, Nat.zero_le _, fun hne => absurd hpublished hne⟩

theorem Inv.spec {document : Json} {as : List Action} {s : State}
    (hargs : B.toInterpreter.converts args.maxPubOps = true)
    (h : Inv B args (documentPlaces document) as s) : SampleSpec B args document as s := by
  obtain ⟨n, hmessages, hn, hpublishes⟩ := h.messages_eq
  have hlength : s.published.length = n := by simp [hmessages, messages]
  have hsearch := h.search
  refine ⟨?_, fun e he => ?_, fun hnone => ?_, fun hpc => ?_, fun e hpc => ?_, ?_, hlength ▸ hn,
    hpublishes, fun hpc => ?_⟩
  · rcases hsearch.cases with ⟨rest, hf⟩ | ⟨_, rest, _, ha⟩ | ⟨_, rest, _, ha⟩
    · exact ⟨rest, hf.places⟩
    · exact ⟨rest, ha.places⟩
    · exact ⟨rest, ha.places⟩
  · rcases hsearch.cases with ⟨_, hf⟩ | ⟨_, _, hnone, _⟩ | ⟨e', _, he', ha⟩
    · rw [hf.connection] at he
      cases he
    · rw [hnone] at he
      cases he
    · rw [he'] at he
      cases he
      exact ha.outcomes
  · rcases hsearch.cases with ⟨_, hf⟩ | ⟨_, _, _, ha⟩ | ⟨e, _, he, _⟩
    · rw [hf.outcomes]
      exact fun _ hok => List.eq_of_mem_replicate hok
    · obtain ⟨earlier, _, houtcomes⟩ := ha.outcomes
      rw [houtcomes, List.append_nil]
      exact fun _ hok => List.eq_of_mem_replicate hok
    · rw [he] at hnone
      cases hnone
  · simp only [Search, hpc] at hsearch
    exact ⟨hsearch.places.trans (List.append_nil _), hsearch.outcomes⟩
  · simp only [Search, hpc] at hsearch
    obtain ⟨rest, hf⟩ := hsearch
    have hmem : .raises e ∈ documentPlaces document := by simp [hf.places]
    obtain rfl := raises_of_mem_documentPlaces hmem
    exact ⟨rfl, ⟨rest, hf.places⟩, hf.outcomes⟩
  · rw [hlength, hmessages]
    exact forall₂_messages hargs hn
  · have hpublished := h.published
    simp only [Search, Published, hpc] at hsearch hpublished
    obtain ⟨e, _, he, _⟩ := hsearch
    refine ⟨⟨e, he⟩, ?_⟩
    split
    · rename_i hflag
      rw [if_pos hflag] at hpublished
      simp [hpublished, messages]
    · rename_i hflag
      rw [if_neg hflag] at hpublished
      exact hpublished.2

/-- The sample after the discovery, from the bytes of the service to its endpoints. -/
theorem sample_run {ε : Type} {ds : List (Discovery.Act ε)} {d : Discovery.State ε}
    (hdiscover : run (Discovery.step B) {} ds = some d) {response : Obj}
    (hresponse : d.future = .done (.ok response)) (hprint : args.printDiscoverRespOnly = false)
    (hargs : B.toInterpreter.converts args.maxPubOps = true) {as : List Action} {s : State}
    (hrun : run (step B args) (start args response) as = some s) :
    ∃ document, Json.Document B.toInterpreter
        (Discovery.bytes (uncancelled Discovery.Act.isCancel ds)) document ∧
      SampleSpec B args document as s := by
  obtain ⟨document, hdocument, hrepresents⟩ := Discovery.carries_of_done hdiscover hresponse
  have hinv := inv_run hprint hrun
  rw [responsePlaces_eq hrepresents] at hinv
  exact ⟨document, hdocument, hinv.spec hargs⟩

/-- A core with two addresses, of which the second answers. -/
theorem sample_run_second :
    let B : Builtins := .noText
    let args : Args := { mode := "publish", maxPubOps := 1 }
    let info : String → Json := fun host => .obj [("HostAddress", .str host)]
    let document : Json :=
      .obj [("GGGroups", .arr [.obj [("CAs", .arr [.str "pem"]),
        ("Cores", .arr [.obj [("Connectivity", .arr [info "a", info "b"])]])]])]
    let infoObj : String → Obj := fun host =>
      .instance connectivityInfo [.none, .json (.str host), .none, .none]
    let response : Obj :=
      .instance discoverResponse [.list [.instance ggGroup [.none,
        .list [.instance ggCore [.none, .list [infoObj "a", infoObj "b"]]],
        .json (.arr [.str "pem"])]]]
    let body := JsonText.encodeUtf8 (Json.dumps B.toInterpreter document)
    let ds : List (Discovery.Act Unit) :=
      [.connected (.ok ()), .requested (.ok ()), .added, .chunk (body.take 20),
        .chunk (body.drop 20), .completed (.ok 200)]
    let as : List Action :=
      [.main, .main, .main, .attempt false, .main, .attempt true, .main, .main, .published true,
        .main, .main]
    ∃ d, run (Discovery.step B) {} ds = some d ∧ d.future = .done (.ok response) ∧
      ∃ s, run (step B args) (start args response) as = some s ∧
        ∃ document, Json.Document B.toInterpreter
            (Discovery.bytes (uncancelled Discovery.Act.isCancel ds)) document ∧
          SampleSpec B args document as s := by
  intro B args info document infoObj response body ds as
  have hreadable : Json.Readable B.toInterpreter document := by
    simp [document, info, Json.Readable, Json.ReadableFields, Json.ReadableList]
  have hcarries : Mqtt.Carries B discoverResponse body response :=
    ⟨document, Json.document_dumps hreadable, (Mqtt.fromPayload_eq_ok _ _ _).mp rfl⟩
  obtain ⟨d, hd⟩ : ∃ d, run (Discovery.step B) {} ds = some d := ⟨_, rfl⟩
  have hresponse : d.future = .done (.ok response) := by
    rw [(Discovery.inv_run hd).future, CancellableFuture.settled_eq_done_iff,
      Discovery.verdict_eq_some]
    refine .inr ⟨.ok 200, ⟨rfl, rfl, rfl⟩, (Discovery.answer_eq_ok.mpr ⟨rfl, ?_⟩).symm⟩
    have hbytes : Discovery.bytes (uncancelled Discovery.Act.isCancel ds) = body := by
      change [] ++ ([] ++ ([] ++ (body.take 20 ++ (body.drop 20 ++ [])))) = body
      simp
    rwa [hbytes]
  obtain ⟨s, hs⟩ : ∃ s, run (step B args) (start args response) as = some s := ⟨_, rfl⟩
  have hargs : B.toInterpreter.converts args.maxPubOps = true := by decide +kernel
  exact ⟨d, hd, hresponse, s, hs, sample_run hd hresponse rfl hargs hs⟩

end IotCore.BasicDiscovery
