import Mathlib.Data.List.Pairwise
import IotCore.Model.Mqtt.IotIdentity
import IotCore.Model.Mqtt.IotJobs
import IotCore.Model.Mqtt.IotShadow

/-! # Topics of the MQTT services

The topics of the three clients are told apart by their levels, whatever names they are filled
with. So a subscription receives the messages of its own operation, for its own names, and no
others. -/

namespace IotCore.Mqtt

open Greengrass (Exc)

/-! ## Operations -/

inductive Operation where
  | publish (op : PublishOperation)
  | subscribe (op : SubscribeOperation)

def Operation.topic : Operation → List Piece
  | .publish op => op.topic
  | .subscribe op => op.topic

def subscribes : List SubscribeOperation :=
  IotShadow.subscribes ++ IotJobs.subscribes ++ IotIdentity.subscribes

def operations : List Operation :=
  (IotShadow.publishes ++ IotJobs.publishes ++ IotIdentity.publishes).map .publish ++
    subscribes.map .subscribe

/-! ## Format strings as templates -/

def Piece.symbols : Piece → List (Symbol String)
  | .text s => s.toList.map .char
  | .attr a => [.name a]

def symbolsOf (topic : List Piece) : List (Symbol String) := topic.flatMap Piece.symbols

theorem name_mem_symbolsOf (topic : List Piece) (attr : String) :
    Symbol.name attr ∈ symbolsOf topic ↔ Piece.attr attr ∈ topic := by
  induction topic with
  | nil => simp [symbolsOf]
  | cons piece topic ih =>
      rw [symbolsOf, List.flatMap_cons, List.mem_append, List.mem_cons, ← ih]
      cases piece <;> simp [Piece.symbols, symbolsOf]

/-- What stands for an attribute in a topic. -/
def nameOf (B : Builtins) (request : Request) (attr : String) : List Char :=
  match request.getattr attr with
  | .ok x => format B x
  | .error _ => []

theorem formatTopic_eq_fill {B : Builtins} {request : Request} {topic : List Piece}
    {text : List Char} (h : formatTopic B request topic = .ok text) :
    text = fill (nameOf B request) (symbolsOf topic) := by
  induction topic generalizing text with
  | nil =>
      cases h
      rfl
  | cons piece topic ih =>
      cases piece with
      | text s =>
          cases hrest : formatTopic B request topic with
          | error e => simp [formatTopic, hrest, bind, Except.bind] at h
          | ok rest =>
              obtain rfl : s.toList ++ rest = text := by
                simpa [formatTopic, hrest, bind, Except.bind, pure, Except.pure] using h
              rw [ih hrest]
              simp [fill, symbolsOf, Piece.symbols, Symbol.fill, List.flatMap_map]
      | attr attr =>
          cases hx : request.getattr attr with
          | error e => simp [formatTopic, hx, bind, Except.bind] at h
          | ok x =>
              cases hrest : formatTopic B request topic with
              | error e => simp [formatTopic, hx, hrest, bind, Except.bind] at h
              | ok rest =>
                  obtain rfl : format B x ++ rest = text := by
                    simpa [formatTopic, hx, hrest, bind, Except.bind, pure, Except.pure] using h
                  rw [ih hrest]
                  simp [fill, symbolsOf, Piece.symbols, Symbol.fill, nameOf, hx]

/-! ## The table of topics -/

/-- The levels of a topic that begins with `$` and has no wildcards. -/
def routable (topic : List Piece) : Option (List (Level String)) :=
  match (symbolsOf topic).head?, levelsOf (symbolsOf topic) with
  | some (.char '$'), some ls => if ls.all Level.plain then some ls else none
  | _, _ => none

def allApart : List (Option (List (Level String))) → Bool
  | [] => true
  | none :: _ => false
  | some ls :: rest => (rest.all fun
      | none => false
      | some ms => apart ls ms) && allApart rest

theorem operations_apart : allApart (operations.map fun op => routable op.topic) = true := by
  decide +kernel

theorem routable_sound {topic : List Piece} {ls : List (Level String)}
    (h : routable topic = some ls) : Routable (symbolsOf topic) ls := by
  rw [routable] at h
  split at h
  · rename_i hhead hlevels
    rw [Option.ite_none_right_eq_some, Option.some.injEq] at h
    obtain ⟨hplain, rfl⟩ := h
    exact ⟨hhead, hlevels, hplain⟩
  · cases h

/-- The topics have levels, and some level tells them apart. -/
def TopicsApart (o o' : Operation) : Prop :=
  ∃ ls ms, routable o.topic = some ls ∧ routable o'.topic = some ms ∧ apart ls ms = true

instance : Std.Symm TopicsApart where
  symm _ _ := fun ⟨ls, ms, hls, hms, hapart⟩ => ⟨ms, ls, hms, hls, apart_comm ls ms ▸ hapart⟩

theorem pairwise_of_allApart {ops : List Operation}
    (h : allApart (ops.map fun op => routable op.topic) = true) :
    (∀ o ∈ ops, ∃ ls, routable o.topic = some ls) ∧ ops.Pairwise TopicsApart := by
  induction ops with
  | nil => simp
  | cons o ops ih =>
      rw [List.map_cons] at h
      cases hls : routable o.topic with
      | none => simp [hls, allApart] at h
      | some ls =>
          rw [hls, allApart, Bool.and_eq_true, List.all_eq_true] at h
          obtain ⟨hroutable, hpairwise⟩ := ih h.2
          refine ⟨?_, List.pairwise_cons.mpr ⟨fun o' ho' => ?_, hpairwise⟩⟩
          · simpa [hls] using hroutable
          · obtain ⟨ms, hms⟩ := hroutable o' ho'
            have hapart := h.1 _ (List.mem_map_of_mem ho')
            rw [hms] at hapart
            exact ⟨ls, ms, hls, hms, hapart⟩

theorem topicsApart_of_ne {o o' : Operation} (ho : o ∈ operations) (ho' : o' ∈ operations)
    (hne : o ≠ o') : TopicsApart o o' :=
  (pairwise_of_allApart operations_apart).2.forall ho ho' hne

/-! ## Routing -/

/-- The names of the request are single levels of the topic. -/
def SingleLevels (B : Builtins) (request : Request) (topic : List Piece) : Prop :=
  ∀ attr, Piece.attr attr ∈ topic → '/' ∉ nameOf B request attr

section

variable {B : Builtins} {op : SubscribeOperation} {o : Operation} {request request' : Request}
  {filter topic : List Char}

/-- The names of a subscription are single levels, and none is the wildcard of all levels. -/
structure Subscribes (B : Builtins) (request : Request) (topic : List Piece) : Prop where
  single : SingleLevels B request topic
  hash : ∀ attr, Piece.attr attr ∈ topic → nameOf B request attr ≠ ['#']

theorem Subscribes.symbols (h : Subscribes B request op.topic) (attr : String)
    (hattr : Symbol.name attr ∈ symbolsOf op.topic) :
    '/' ∉ nameOf B request attr ∧ nameOf B request attr ≠ ['#'] := by
  rw [name_mem_symbolsOf] at hattr
  exact ⟨h.single attr hattr, h.hash attr hattr⟩

theorem matchTopic_own (hop : op ∈ subscribes)
    (hfilter : formatTopic B request op.topic = .ok filter)
    (htopic : formatTopic B request' op.topic = .ok topic) (h : Subscribes B request op.topic)
    (h' : SingleLevels B request' op.topic) :
    matchTopic filter topic = true ↔ ∀ attr, Piece.attr attr ∈ op.topic →
      nameOf B request attr = ['+'] ∨ nameOf B request attr = nameOf B request' attr := by
  have hmem : Operation.subscribe op ∈ operations :=
    List.mem_append_right _ (List.mem_map_of_mem hop)
  obtain ⟨ls, hls⟩ := (pairwise_of_allApart operations_apart).1 _ hmem
  have hroutable : Routable (symbolsOf op.topic) ls := routable_sound hls
  rw [formatTopic_eq_fill hfilter, formatTopic_eq_fill htopic,
    hroutable.matchTopic_same h.symbols fun attr hattr =>
      h' attr ((name_mem_symbolsOf op.topic attr).mp hattr)]
  simp [name_mem_symbolsOf]

theorem matchTopic_other (hop : op ∈ subscribes) (ho : o ∈ operations) (hne : o ≠ .subscribe op)
    (hfilter : formatTopic B request op.topic = .ok filter)
    (htopic : formatTopic B request' o.topic = .ok topic) (h : Subscribes B request op.topic)
    (h' : SingleLevels B request' o.topic) : matchTopic filter topic = false := by
  have hmem : Operation.subscribe op ∈ operations :=
    List.mem_append_right _ (List.mem_map_of_mem hop)
  obtain ⟨ls, ms, hls, hms, hapart⟩ := topicsApart_of_ne hmem ho (Ne.symm hne)
  have hroutable : Routable (symbolsOf op.topic) ls := routable_sound hls
  rw [formatTopic_eq_fill hfilter, formatTopic_eq_fill htopic]
  exact hroutable.matchTopic_of_apart (routable_sound hms) h.symbols
    (fun attr hattr => h' attr ((name_mem_symbolsOf o.topic attr).mp hattr)) hapart

theorem subscription_routing (hop : op ∈ subscribes) (ho : o ∈ operations)
    (hfilter : formatTopic B request op.topic = .ok filter)
    (htopic : formatTopic B request' o.topic = .ok topic) (h : Subscribes B request op.topic)
    (h' : SingleLevels B request' o.topic) :
    matchTopic filter topic = true ↔
      o = .subscribe op ∧ ∀ attr, Piece.attr attr ∈ op.topic →
        nameOf B request attr = ['+'] ∨ nameOf B request attr = nameOf B request' attr := by
  by_cases heq : o = .subscribe op
  · subst o
    rw [matchTopic_own hop hfilter htopic h h']
    simp
  · simp [heq, matchTopic_other hop ho heq hfilter htopic h h']

end

/-- The deltas of all things, and a delta of one. -/
theorem subscription_routing_delta :
    let B : Builtins := .noText
    let op := IotShadow.subscribeToShadowDeltaUpdatedEvents
    let thing : String → Request := fun name =>
      ⟨IotShadow.shadowDeltaUpdatedSubscriptionRequest, [.json (.str name)]⟩
    ∃ filter topic,
      formatTopic B (thing "+") op.topic = .ok filter ∧
      formatTopic B (thing "lamp") op.topic = .ok topic ∧
      (matchTopic filter topic = true ↔
        Operation.subscribe op = .subscribe op ∧ ∀ attr, Piece.attr attr ∈ op.topic →
          nameOf B (thing "+") attr = ['+'] ∨
            nameOf B (thing "+") attr = nameOf B (thing "lamp") attr) := by
  intro B op thing
  have hop : op ∈ subscribes := by simp [subscribes, IotShadow.subscribes, op]
  have ho : Operation.subscribe op ∈ operations :=
    List.mem_append_right _ (List.mem_map_of_mem hop)
  have hplus : nameOf B (thing "+") "thing_name" = ['+'] := by
    simp [nameOf, thing, Request.getattr, IotShadow.shadowDeltaUpdatedSubscriptionRequest, format]
  have hlamp : nameOf B (thing "lamp") "thing_name" = ['l', 'a', 'm', 'p'] := by
    simp [nameOf, thing, Request.getattr, IotShadow.shadowDeltaUpdatedSubscriptionRequest, format]
  have hattr : ∀ attr, Piece.attr attr ∈ op.topic → attr = "thing_name" := by
    simp [op, IotShadow.subscribeToShadowDeltaUpdatedEvents]
  have hfilter : formatTopic B (thing "+") op.topic = .ok _ := rfl
  have htopic : formatTopic B (thing "lamp") op.topic = .ok _ := rfl
  refine ⟨_, _, hfilter, htopic, subscription_routing hop ho hfilter htopic ⟨?_, ?_⟩ ?_⟩
  · intro attr h
    rw [hattr attr h, hplus]
    decide
  · intro attr h
    rw [hattr attr h, hplus]
    decide
  · intro attr h
    rw [hattr attr h, hlamp]
    decide

end IotCore.Mqtt
