import Mathlib.Data.List.Nodup
import OpenBanking.Session

/-!
# Traffic over a channel

Clones of a channel share its lifecycle. Through any of them calls start and shutdowns begin, and
calls end and shutdowns return in any order in between. However these follow each other, the calls
that the channel counts are those that were accepted and have not ended, no call is accepted once a
shutdown has begun, and a shutdown that returns true leaves no call under way.
-/

namespace OpenBanking

/-! ## What becomes of a lifecycle -/

namespace Lifecycle

variable (life : Lifecycle)

/-- A closed channel refuses a call, and nothing changes. -/
theorem begin_of_closed (closed : life.channel.closed = true) (method : Method) (headers : Headers)
    (body : List UInt8) : life.begin method headers body = (.error .channelClosed, life) := by
  simp [begin, Channel.admit?, closed]

/-- An open channel takes a call and counts it. -/
theorem begin_of_open (opened : life.channel.closed = false) (method : Method) (headers : Headers)
    (body : List UInt8) :
    life.begin method headers body =
      (.ok (life.channel.callOf method headers body),
        { life with channel := { life.channel with inFlight := life.channel.inFlight + 1 } }) := by
  simp [begin, Channel.admit?, Channel.callOf, opened]

/-- Settling leaves the channel. -/
@[simp]
theorem settle_channel : life.settle.channel = life.channel := by
  unfold settle
  split <;> rfl

/-- Settling changes no shutdown, unless no call is under way. -/
theorem mem_of_mem_settle {shutdown : Shutdown} (mem : shutdown ∈ life.settle.shutdowns) :
    shutdown ∈ life.shutdowns ∨ life.channel.inFlight = 0 := by
  unfold settle at mem
  split at mem
  next none => exact .inr (by simpa [Channel.isDrained] using none)
  next => exact .inl mem

/-- Settling begins and ends no shutdown. -/
theorem shutdowns_settle_eq_nil : life.settle.shutdowns = [] ↔ life.shutdowns = [] := by
  unfold settle
  split
  · exact List.map_eq_nil_iff
  · rfl

/-- Where no shutdown waits nothing is to be settled. -/
theorem settle_of_shutdowns_eq_nil (none : life.shutdowns = []) : life.settle = life := by
  obtain ⟨channel, shutdowns, events⟩ := life
  cases none
  unfold settle
  split <;> simp

/-- A shutdown that returns tells whether it is over, and waits no longer. -/
theorem joinShutdown_cons (shutdown : Shutdown) (rest : List Shutdown) :
    ({ life with shutdowns := shutdown :: rest }.joinShutdown).1 = shutdown.drained ∧
      ({ life with shutdowns := shutdown :: rest }.joinShutdown).2.channel = life.channel ∧
      ({ life with shutdowns := shutdown :: rest }.joinShutdown).2.shutdowns = rest := by
  cases drained : shutdown.drained <;> simp [joinShutdown, drained, log]

end Lifecycle

/-! ## What happens -/

/-- What happens on a channel. -/
inductive Happening where
  /-- A call is accepted, gets a number, and is handed to the transport. -/
  | accepted (id : Nat) (call : Call)
  /-- A call is refused. -/
  | refused (error : ClientError)
  /-- The call of a number ends. -/
  | ended (id : Nat)
  /-- A shutdown begins through a clone. -/
  | closing (clone : Nat)
  /-- A shutdown returns whether it saw the channel without calls. -/
  | returned (drained : Bool)
deriving DecidableEq

namespace Happening

/-- The call that is accepted, with its number. -/
def accepted? : Happening → Option (Nat × Call)
  | accepted id call => some (id, call)
  | _ => none

/-- The number of the call that ends. -/
def ended? : Happening → Option Nat
  | ended id => some id
  | _ => none

end Happening

/-- A channel with its clones, and what has happened so far. -/
structure Traffic where
  /-- The lifecycle of the channel, which all clones share. -/
  life : Lifecycle
  /-- How many clones there are. -/
  clones : Nat := 1
  /-- What happened, in order. -/
  history : List Happening := []

namespace Traffic

/-- The calls that were accepted, and so handed to the transport, in order. -/
def accepted (history : List Happening) : List (Nat × Call) := history.filterMap (·.accepted?)

/-- The numbers of the calls that ended. -/
def ended (history : List Happening) : List Nat := history.filterMap (·.ended?)

/-- The calls in the transport: those that were accepted and have not ended. -/
def underWay (history : List Happening) : List (Nat × Call) :=
  (accepted history).filter (·.1 ∉ ended history)

/-- A new channel with static headers. -/
def fresh (headers : Headers) : Traffic := { life := { channel := { headers } } }

/-- The traffic after something more has happened, with the lifecycle by then. -/
def after (traffic : Traffic) (life : Lifecycle) (happening : Happening) : Traffic :=
  { traffic with life, history := traffic.history ++ [happening] }

/-- What can be done next. -/
inductive Move where
  /-- Clone a clone. -/
  | clone (of : Nat)
  /-- Start a call through a clone. -/
  | start (clone : Nat) (method : Method) (headers : Headers) (body : List UInt8)
  /-- The transport answers the call of a number, or fails it. -/
  | finish (id elapsed : Nat) (result : Except ClientError (List UInt8))
  /-- The call of a number is given up. -/
  | cancel (id : Nat)
  /-- Begin a shutdown through a clone. -/
  | beginShutdown (clone timeout : Nat)
  /-- The shutdown at a place among those that wait returns. -/
  | joinShutdown (place : Nat)

/-- The move ends a call. -/
def Move.ends : Move → Bool
  | finish .. | cancel _ => true
  | _ => false

/-- Does a move. Only clones that there are start calls and shutdowns, only calls under way end, and
only shutdowns that wait return. -/
def step? (traffic : Traffic) : Move → Option Traffic
  | .clone of =>
    if of < traffic.clones then some { traffic with clones := traffic.clones + 1 } else none
  | .start clone method headers body =>
    if clone < traffic.clones then
      match traffic.life.begin method headers body with
      | (.ok call, life) =>
        some (traffic.after life (.accepted (accepted traffic.history).length call))
      | (.error error, life) => some (traffic.after life (.refused error))
    else none
  | .finish id elapsed result =>
    ((underWay traffic.history).lookup id).map fun call =>
      traffic.after (traffic.life.finish call.method elapsed result) (.ended id)
  | .cancel id =>
    ((underWay traffic.history).lookup id).map fun _ =>
      traffic.after traffic.life.cancel (.ended id)
  | .beginShutdown clone timeout =>
    if clone < traffic.clones then
      some (traffic.after (traffic.life.beginShutdown timeout).2 (.closing clone))
    else none
  | .joinShutdown place =>
    traffic.life.shutdowns[place]?.map fun shutdown =>
      let rest := traffic.life.shutdowns.eraseIdx place
      let (drained, life) := { traffic.life with shutdowns := shutdown :: rest }.joinShutdown
      traffic.after life (.returned drained)

/-- Does moves, the first one first. -/
def run? (traffic : Traffic) (moves : List Move) : Option Traffic := moves.foldlM step? traffic

/-! ## Counting -/

section Counting

variable {history : List Happening} {happening : Happening} {n id : Nat} {call : Call}

/-- What neither accepts nor ends a call leaves the calls. -/
structure Neutral (happening : Happening) : Prop where
  /-- It accepts no call. -/
  accepted?_eq : happening.accepted? = none
  /-- It ends no call. -/
  ended?_eq : happening.ended? = none

/-- The number of calls under way is right: calls are numbered in the order in which they were
accepted, those that ended were accepted, and the number is that of the others. -/
structure Counted (history : List Happening) (n : Nat) : Prop where
  /-- Accepted calls are numbered from zero. -/
  ids_eq : (accepted history).map (·.1) = List.range (accepted history).length
  /-- What ended was accepted. -/
  lt_of_ended : ∀ id ∈ ended history, id < (accepted history).length
  /-- The number is right. -/
  count_eq : n = (underWay history).length

/-- A happening that accepts a call adds it behind those that were accepted. -/
theorem accepted_concat : accepted (history ++ [happening]) =
    accepted history ++ happening.accepted?.toList := by
  rw [accepted, List.filterMap_append]
  cases given : happening.accepted? <;> simp [accepted, given]

/-- A happening that ends a call adds it behind those that ended. -/
theorem ended_concat : ended (history ++ [happening]) =
    ended history ++ happening.ended?.toList := by
  rw [ended, List.filterMap_append]
  cases given : happening.ended? <;> simp [ended, given]

/-- What is neutral leaves the number. -/
theorem Counted.concat (counted : Counted history n) (neutral : Neutral happening) :
    Counted (history ++ [happening]) n := by
  have accepts : accepted (history ++ [happening]) = accepted history := by
    rw [accepted_concat, neutral.accepted?_eq, Option.toList_none, List.append_nil]
  have ends : ended (history ++ [happening]) = ended history := by
    rw [ended_concat, neutral.ended?_eq, Option.toList_none, List.append_nil]
  obtain ⟨ids, lt, count⟩ := counted
  constructor
  · rw [accepts, ids]
  · rw [accepts, ends]
    exact lt
  · rw [underWay, accepts, ends]
    exact count

/-- With one more call accepted there is one more under way. -/
theorem Counted.concat_accepted (counted : Counted history n) (call : Call) :
    Counted (history ++ [.accepted (accepted history).length call]) (n + 1) := by
  have accepts : accepted (history ++ [.accepted (accepted history).length call]) =
      accepted history ++ [((accepted history).length, call)] := accepted_concat
  have ends : ended (history ++ [.accepted (accepted history).length call]) = ended history := by
    rw [ended_concat]
    exact List.append_nil _
  obtain ⟨ids, lt, count⟩ := counted
  constructor
  · rw [accepts, List.map_append, ids, List.length_append, List.length_singleton, List.range_succ]
    rfl
  · intro id mem
    rw [ends] at mem
    rw [accepts, List.length_append]
    exact Nat.lt_of_lt_of_le (lt id mem) (Nat.le_add_right _ _)
  · have new : (accepted history).length ∉ ended history := fun mem =>
      Nat.lt_irrefl _ (lt _ mem)
    rw [underWay, accepts, ends, List.filter_append, List.length_append, count, underWay]
    simp [new]

/-- The calls under way have different numbers. -/
theorem Counted.nodup (counted : Counted history n) : ((underWay history).map (·.1)).Nodup :=
  (counted.ids_eq ▸ List.nodup_range).sublist (List.filter_sublist.map _)

/-- The number of a call under way is one of an accepted call. -/
theorem Counted.lt_of_lookup (counted : Counted history n)
    (found : (underWay history).lookup id = some call) : id < (accepted history).length := by
  obtain ⟨front, back, parted, -⟩ := List.lookup_eq_some_iff.1 found
  have mem : (id, call) ∈ underWay history := by
    rw [parted]
    exact List.mem_append_right _ List.mem_cons_self
  have numbered : id ∈ (accepted history).map (·.1) :=
    List.mem_map_of_mem (List.mem_filter.1 mem).1
  rw [counted.ids_eq] at numbered
  exact List.mem_range.1 numbered

/-- A number that stands once is missed once. -/
theorem length_filter_ne {entries : List (Nat × Call)} (distinct : (entries.map (·.1)).Nodup)
    (found : entries.lookup id = some call) :
    (entries.filter (·.1 ≠ id)).length + 1 = entries.length := by
  induction entries with
  | nil => cases found
  | cons entry later ih =>
    obtain ⟨new, distinct⟩ := List.nodup_cons.1 distinct
    by_cases same : entry.1 = id
    · have none : later.filter (·.1 ≠ id) = later := by
        refine List.filter_eq_self.2 fun other mem => ?_
        have apart : other.1 ≠ id := fun again =>
          new (List.mem_map.2 ⟨other, mem, again.trans same.symm⟩)
        simpa using apart
      rw [List.filter_cons_of_neg (by simpa using same), none, List.length_cons]
    · have further : later.lookup id = some call := by
        rw [List.lookup_cons, beq_false_of_ne (Ne.symm same)] at found
        exact found
      rw [List.filter_cons_of_pos (by simpa using same), List.length_cons, List.length_cons,
        ih distinct further]

/-- With a call ended that was under way there is one less. -/
theorem Counted.concat_ended (counted : Counted history n)
    (found : (underWay history).lookup id = some call) :
    0 < n ∧ Counted (history ++ [.ended id]) (n - 1) := by
  have accepts : accepted (history ++ [.ended id]) = accepted history := by
    rw [accepted_concat]
    exact List.append_nil _
  have ends : ended (history ++ [.ended id]) = ended history ++ [id] := ended_concat
  have rest : underWay (history ++ [.ended id]) = (underWay history).filter (·.1 ≠ id) := by
    rw [underWay, accepts, ends, underWay, List.filter_filter]
    refine List.filter_congr fun entry _ => ?_
    simp [Bool.and_comm]
  have length := length_filter_ne counted.nodup found
  rw [← rest, ← counted.count_eq] at length
  refine ⟨by omega, ?_, ?_, by omega⟩
  · rw [accepts, counted.ids_eq]
  · intro other mem
    rw [ends] at mem
    rw [accepts]
    rcases List.mem_append.1 mem with earlier | last
    · exact counted.lt_of_ended other earlier
    · rw [List.mem_singleton.1 last]
      exact counted.lt_of_lookup found

end Counting

/-! ## Closing -/

/-- What holds throughout: the count is right, the channel is closed exactly if a shutdown began,
and nothing is under way if a shutdown that waits is over or one returned true. -/
structure Sound (traffic : Traffic) : Prop where
  /-- The count is the number of calls under way. -/
  counted : Counted traffic.history traffic.life.channel.inFlight
  /-- The shutdowns that began have closed the channel. -/
  closed_iff : traffic.life.channel.closed = true ↔ ∃ clone, .closing clone ∈ traffic.history
  /-- A shutdown that waits has closed the channel. -/
  closed_of_waiting : traffic.life.shutdowns ≠ [] → traffic.life.channel.closed = true
  /-- A shutdown that is over has seen that nothing is under way. -/
  idle_of_drained : ∀ shutdown ∈ traffic.life.shutdowns, shutdown.drained = true →
    traffic.life.channel.inFlight = 0
  /-- What a shutdown has told is still so. -/
  idle_of_returned : .returned true ∈ traffic.history →
    traffic.life.channel.closed = true ∧ traffic.life.channel.inFlight = 0

/-- A new channel is sound. -/
theorem sound_fresh (headers : Headers) : (fresh headers).Sound where
  counted := ⟨rfl, nofun, rfl⟩
  closed_iff := ⟨nofun, nofun⟩
  closed_of_waiting := fun waits => absurd rfl waits
  idle_of_drained := nofun
  idle_of_returned := nofun

variable {traffic later : Traffic} {id : Nat} {call : Call}

/-- What happens leaves the traffic sound if the count stays right, a closed channel stays closed
and an idle one idle, and the shutdowns that begin, wait or return are as they should be. -/
theorem Sound.after (sound : traffic.Sound) {life : Lifecycle} {happening : Happening}
    (counted : Counted (traffic.history ++ [happening]) life.channel.inFlight)
    (closed : traffic.life.channel.closed = true → life.channel.closed = true)
    (idle : traffic.life.channel.closed = true → traffic.life.channel.inFlight = 0 →
      life.channel.inFlight = 0)
    (began : life.channel.closed = true →
      traffic.life.channel.closed = true ∨ ∃ clone, happening = .closing clone)
    (closes : ∀ clone, happening = .closing clone → life.channel.closed = true)
    (returned : happening = .returned true →
      life.channel.closed = true ∧ life.channel.inFlight = 0)
    (waits : life.shutdowns ≠ [] → life.channel.closed = true)
    (drained : ∀ shutdown ∈ life.shutdowns, shutdown.drained = true →
      life.channel.inFlight = 0) : (traffic.after life happening).Sound where
  counted := counted
  closed_iff := by
    constructor
    · intro isClosed
      rcases began isClosed with before | ⟨clone, rfl⟩
      · obtain ⟨clone, earlier⟩ := sound.closed_iff.1 before
        exact ⟨clone, List.mem_append_left _ earlier⟩
      · exact ⟨clone, List.mem_append_right _ List.mem_cons_self⟩
    · rintro ⟨clone, mem⟩
      rcases List.mem_append.1 mem with earlier | last
      · exact closed (sound.closed_iff.2 ⟨clone, earlier⟩)
      · exact closes clone (List.mem_singleton.1 last).symm
  closed_of_waiting := waits
  idle_of_drained := drained
  idle_of_returned := by
    intro mem
    rcases List.mem_append.1 mem with earlier | last
    · obtain ⟨isClosed, isIdle⟩ := sound.idle_of_returned earlier
      exact ⟨closed isClosed, idle isClosed isIdle⟩
    · exact returned (List.mem_singleton.1 last).symm

/-- A refused call leaves the traffic sound. -/
theorem Sound.refused (sound : traffic.Sound) (error : ClientError) :
    (traffic.after traffic.life (.refused error)).Sound :=
  sound.after (sound.counted.concat ⟨rfl, rfl⟩) (fun closed => closed) (fun _ idle => idle) .inl
    nofun nofun sound.closed_of_waiting sound.idle_of_drained

/-- A call that an open channel accepts leaves the traffic sound. -/
theorem Sound.accepted (sound : traffic.Sound) (opened : traffic.life.channel.closed = false)
    (call : Call) :
    (traffic.after
      { traffic.life with channel :=
        { traffic.life.channel with inFlight := traffic.life.channel.inFlight + 1 } }
      (.accepted (Traffic.accepted traffic.history).length call)).Sound := by
  have never : ¬traffic.life.channel.closed = true := by simp [opened]
  have none : traffic.life.shutdowns = [] := by
    by_contra waits
    exact never (sound.closed_of_waiting waits)
  refine sound.after (sound.counted.concat_accepted call) (fun closed => closed)
    (fun closed => absurd closed never) .inl nofun nofun sound.closed_of_waiting ?_
  intro shutdown mem
  rw [show ({ traffic.life with channel := _ } : Lifecycle).shutdowns = [] from none] at mem
  cases mem

/-- A call that ends leaves the traffic sound. -/
theorem Sound.ended (sound : traffic.Sound)
    (found : (underWay traffic.history).lookup id = some call) {life : Lifecycle}
    (channel : life.channel = traffic.life.channel.release)
    (shutdowns : life.shutdowns = traffic.life.shutdowns) :
    (traffic.after life.settle (.ended id)).Sound := by
  have counted := (sound.counted.concat_ended found).2
  refine sound.after ?_ ?_ ?_ ?_ nofun nofun ?_ ?_
  · rw [Lifecycle.settle_channel, channel]
    exact counted
  · rw [Lifecycle.settle_channel, channel]
    exact fun closed => closed
  · intro _ idle
    rw [Lifecycle.settle_channel, channel, Channel.release, idle]
  · rw [Lifecycle.settle_channel, channel]
    exact .inl
  · rw [Lifecycle.settle_channel, channel, ne_eq, Lifecycle.shutdowns_settle_eq_nil, shutdowns]
    exact sound.closed_of_waiting
  · intro shutdown mem drained
    rw [Lifecycle.settle_channel]
    rcases life.mem_of_mem_settle mem with earlier | idle
    · rw [shutdowns] at earlier
      rw [channel, Channel.release, sound.idle_of_drained shutdown earlier drained]
    · exact idle

/-- A shutdown that begins leaves the traffic sound. -/
theorem Sound.closing (sound : traffic.Sound) (clone timeout : Nat) :
    (traffic.after (traffic.life.beginShutdown timeout).2 (.closing clone)).Sound := by
  have closes : (traffic.life.beginShutdown timeout).2.channel = traffic.life.channel.close :=
    Lifecycle.settle_channel _
  have closed : (traffic.life.beginShutdown timeout).2.channel.closed = true := by
    rw [closes]
    rfl
  refine sound.after ?_ (fun _ => closed) ?_ (fun _ => .inr ⟨clone, rfl⟩) (fun _ _ => closed) nofun
    (fun _ => closed) ?_
  · rw [closes]
    exact sound.counted.concat ⟨rfl, rfl⟩
  · rw [closes]
    exact fun _ idle => idle
  · intro shutdown mem drained
    rw [closes]
    rcases Lifecycle.mem_of_mem_settle _ mem with waits | idle
    · rcases List.mem_cons.1 waits with rfl | earlier
      · cases drained
      · exact sound.idle_of_drained shutdown earlier drained
    · exact idle

/-- A shutdown that returns leaves the traffic sound. -/
theorem Sound.returned (sound : traffic.Sound) {place : Nat} {shutdown : Shutdown}
    (waits : traffic.life.shutdowns[place]? = some shutdown) {life : Lifecycle}
    (channel : life.channel = traffic.life.channel)
    (shutdowns : life.shutdowns = traffic.life.shutdowns.eraseIdx place) :
    (traffic.after life (.returned shutdown.drained)).Sound := by
  have mem : shutdown ∈ traffic.life.shutdowns := List.mem_of_getElem? waits
  have closed := sound.closed_of_waiting (List.ne_nil_of_mem mem)
  refine sound.after ?_ ?_ ?_ ?_ nofun ?_ ?_ ?_
  · rw [channel]
    exact sound.counted.concat ⟨rfl, rfl⟩
  · rw [channel]
    exact fun closed => closed
  · rw [channel]
    exact fun _ idle => idle
  · rw [channel]
    exact .inl
  · intro same
    rw [channel]
    exact ⟨closed, sound.idle_of_drained shutdown mem (Happening.returned.inj same)⟩
  · rw [channel]
    exact fun _ => closed
  · intro other waiting drained
    rw [shutdowns] at waiting
    rw [channel]
    exact sound.idle_of_drained other (List.mem_of_mem_eraseIdx waiting) drained

/-! ## Moves -/

/-- All that a move can do. -/
inductive Changes (traffic : Traffic) : Traffic → Prop where
  /-- There is one more clone. -/
  | cloned : Changes traffic { traffic with clones := traffic.clones + 1 }
  /-- An open channel takes a call. -/
  | accepted (opened : traffic.life.channel.closed = false) (call : Call) :
    Changes traffic (traffic.after
      { traffic.life with channel :=
        { traffic.life.channel with inFlight := traffic.life.channel.inFlight + 1 } }
      (.accepted (Traffic.accepted traffic.history).length call))
  /-- A closed channel refuses a call. -/
  | refused (closed : traffic.life.channel.closed = true) :
    Changes traffic (traffic.after traffic.life (.refused .channelClosed))
  /-- A call under way ends, and shutdowns that wait are told. -/
  | ended {id : Nat} {call : Call} (found : (underWay traffic.history).lookup id = some call)
      {life : Lifecycle} (channel : life.channel = traffic.life.channel.release)
      (shutdowns : life.shutdowns = traffic.life.shutdowns) :
    Changes traffic (traffic.after life.settle (.ended id))
  /-- A shutdown begins. -/
  | closing (clone timeout : Nat) :
    Changes traffic (traffic.after (traffic.life.beginShutdown timeout).2 (.closing clone))
  /-- A shutdown that waits returns. -/
  | returned {place : Nat} {shutdown : Shutdown}
      (waits : traffic.life.shutdowns[place]? = some shutdown) {life : Lifecycle}
      (channel : life.channel = traffic.life.channel)
      (shutdowns : life.shutdowns = traffic.life.shutdowns.eraseIdx place) :
    Changes traffic (traffic.after life (.returned shutdown.drained))

/-- Every move does one of these. -/
theorem changes_of_step? {move : Move} (stepped : traffic.step? move = some later) :
    traffic.Changes later := by
  cases move with
  | clone of =>
    simp only [step?, Option.ite_none_right_eq_some, Option.some.injEq] at stepped
    obtain ⟨-, rfl⟩ := stepped
    exact .cloned
  | start clone method headers body =>
    simp only [step?, Option.ite_none_right_eq_some] at stepped
    obtain ⟨-, stepped⟩ := stepped
    cases closed : traffic.life.channel.closed with
    | true =>
      rw [traffic.life.begin_of_closed closed] at stepped
      cases stepped
      exact .refused closed
    | false =>
      rw [traffic.life.begin_of_open closed] at stepped
      cases stepped
      exact .accepted closed _
  | finish id elapsed result =>
    obtain ⟨call, found, rfl⟩ := Option.map_eq_some_iff.1 stepped
    exact .ended found rfl rfl
  | cancel id =>
    obtain ⟨call, found, rfl⟩ := Option.map_eq_some_iff.1 stepped
    exact .ended found rfl rfl
  | beginShutdown clone timeout =>
    simp only [step?, Option.ite_none_right_eq_some, Option.some.injEq] at stepped
    obtain ⟨-, rfl⟩ := stepped
    exact .closing clone timeout
  | joinShutdown place =>
    obtain ⟨shutdown, waits, rfl⟩ := Option.map_eq_some_iff.1 stepped
    obtain ⟨drained, channel, shutdowns⟩ :=
      traffic.life.joinShutdown_cons shutdown (traffic.life.shutdowns.eraseIdx place)
    have change := Changes.returned waits channel shutdowns
    rw [← drained] at change
    exact change

/-- Whatever happens leaves the traffic sound. -/
theorem Sound.changed (sound : traffic.Sound) (changes : traffic.Changes later) : later.Sound := by
  cases changes with
  | cloned =>
    exact ⟨sound.counted, sound.closed_iff, sound.closed_of_waiting, sound.idle_of_drained,
      sound.idle_of_returned⟩
  | accepted opened call => exact sound.accepted opened call
  | refused _ => exact sound.refused _
  | ended found channel shutdowns => exact sound.ended found channel shutdowns
  | closing clone timeout => exact sound.closing clone timeout
  | returned waits channel shutdowns => exact sound.returned waits channel shutdowns

/-- The first move is done first. -/
theorem run?_cons_eq_some {move : Move} {moves : List Move} :
    traffic.run? (move :: moves) = some later ↔
      ∃ middle, traffic.step? move = some middle ∧ middle.run? moves = some later := by
  rw [run?, List.foldlM_cons]
  exact Option.bind_eq_some_iff

/-- Every run leaves the traffic sound. -/
theorem Sound.run (sound : traffic.Sound) {moves : List Move}
    (ran : traffic.run? moves = some later) : later.Sound := by
  induction moves generalizing traffic with
  | nil =>
    cases ran
    exact sound
  | cons move moves ih =>
    obtain ⟨middle, stepped, ran⟩ := run?_cons_eq_some.1 ran
    exact ih (sound.changed (changes_of_step? stepped)) ran

/-- What is the case after moves over a closed channel: it is closed, no call was accepted, and no
more calls are under way. -/
structure Fades (traffic later : Traffic) : Prop where
  /-- The channel stays closed. -/
  closed_eq : later.life.channel.closed = true
  /-- Nothing was handed to the transport. -/
  accepted_eq : accepted later.history = accepted traffic.history
  /-- The count has not grown. -/
  inFlight_le : later.life.channel.inFlight ≤ traffic.life.channel.inFlight

/-- What accepts no call fades if the channel is closed and the count has not grown. -/
theorem fades_after {life : Lifecycle} {happening : Happening}
    (none : happening.accepted? = none) (closed : life.channel.closed = true)
    (le : life.channel.inFlight ≤ traffic.life.channel.inFlight) :
    traffic.Fades (traffic.after life happening) where
  closed_eq := closed
  accepted_eq := by
    refine accepted_concat.trans ?_
    rw [none, Option.toList_none, List.append_nil]
  inFlight_le := le

/-- Over a closed channel whatever happens fades. -/
theorem Changes.fades (changes : traffic.Changes later)
    (closed : traffic.life.channel.closed = true) : traffic.Fades later := by
  cases changes with
  | cloned => exact ⟨closed, rfl, Nat.le_refl _⟩
  | accepted opened call => simp [closed] at opened
  | refused _ => exact fades_after rfl closed (Nat.le_refl _)
  | @ended id call found life channel shutdowns =>
    have settled : life.settle.channel = traffic.life.channel.release :=
      life.settle_channel.trans channel
    refine fades_after rfl ?_ ?_
    · rw [settled]
      exact closed
    · rw [settled]
      exact Nat.sub_le _ _
  | closing clone timeout =>
    have closes : (traffic.life.beginShutdown timeout).2.channel = traffic.life.channel.close :=
      Lifecycle.settle_channel _
    refine fades_after rfl ?_ ?_
    · rw [closes]
      rfl
    · rw [closes]
      exact Nat.le_refl _
  | returned waits channel shutdowns =>
    refine fades_after rfl ?_ ?_
    · rw [channel, closed]
    · exact Nat.le_of_eq (congrArg Channel.inFlight channel)

/-- Over a closed channel every run fades. -/
theorem fades_of_run? (closed : traffic.life.channel.closed = true) {moves : List Move}
    (ran : traffic.run? moves = some later) : traffic.Fades later := by
  induction moves generalizing traffic with
  | nil =>
    cases ran
    exact ⟨closed, rfl, Nat.le_refl _⟩
  | cons move moves ih =>
    obtain ⟨middle, stepped, ran⟩ := run?_cons_eq_some.1 ran
    have first := (changes_of_step? stepped).fades closed
    have rest := ih first.closed_eq ran
    exact ⟨rest.closed_eq, rest.accepted_eq.trans first.accepted_eq,
      Nat.le_trans rest.inFlight_le first.inFlight_le⟩

/-- A call that ends takes one off the count. -/
theorem Sound.inFlight_of_ends (sound : traffic.Sound) {move : Move}
    (stepped : traffic.step? move = some later) (ends : move.ends = true) :
    later.life.channel.inFlight + 1 = traffic.life.channel.inFlight := by
  obtain ⟨id, call, life, found, channel, rfl⟩ : ∃ (id : Nat) (call : Call) (life : Lifecycle),
      (underWay traffic.history).lookup id = some call ∧
      life.channel = traffic.life.channel.release ∧
      later = traffic.after life (.ended id) := by
    cases move with
    | finish id elapsed result =>
      obtain ⟨call, found, rfl⟩ := Option.map_eq_some_iff.1 stepped
      exact ⟨id, call, _, found, Lifecycle.settle_channel _, rfl⟩
    | cancel id =>
      obtain ⟨call, found, rfl⟩ := Option.map_eq_some_iff.1 stepped
      exact ⟨id, call, _, found, Lifecycle.settle_channel _, rfl⟩
    | clone | start | beginShutdown | joinShutdown => cases ends
  have positive := (sound.counted.concat_ended found).1
  have released : life.channel.inFlight = traffic.life.channel.inFlight - 1 := by
    rw [channel]
    rfl
  show life.channel.inFlight + 1 = _
  omega

/-- A call through a clone of an open channel is accepted and counted. -/
theorem step?_start_of_open (opened : traffic.life.channel.closed = false) {clone : Nat}
    (held : clone < traffic.clones) (method : Method) (headers : Headers) (body : List UInt8) :
    ∃ later call, traffic.step? (.start clone method headers body) = some later ∧
      accepted later.history =
        accepted traffic.history ++ [((accepted traffic.history).length, call)] ∧
      later.life.channel.inFlight = traffic.life.channel.inFlight + 1 := by
  have stepped : traffic.step? (.start clone method headers body) = some (traffic.after
      { traffic.life with channel :=
        { traffic.life.channel with inFlight := traffic.life.channel.inFlight + 1 } }
      (.accepted (accepted traffic.history).length
        (traffic.life.channel.callOf method headers body))) := by
    rw [step?, if_pos held, traffic.life.begin_of_open opened]
  exact ⟨_, _, stepped, accepted_concat, rfl⟩

/-- A call through a clone of a closed channel is refused. -/
theorem step?_start_of_closed (closed : traffic.life.channel.closed = true) {clone : Nat}
    (held : clone < traffic.clones) (method : Method) (headers : Headers) (body : List UInt8) :
    traffic.step? (.start clone method headers body) =
      some (traffic.after traffic.life (.refused .channelClosed)) := by
  rw [step?, if_pos held, traffic.life.begin_of_closed closed]

/-- A channel counts its calls and, once closed, only loses them. However calls start, end, fail and
are given up and shutdowns begin and return, through however many clones: the count is the number of
calls that were accepted and have not ended, and each end takes one off it. Until a shutdown begins
every call is accepted and adds one to it. From then on, through any clone, every call is refused
for the closed channel and changes nothing, nothing is handed to the transport, and the count never
grows. Once a shutdown has returned true, no call is in the transport. -/
theorem counts_calls_until_closed (headers : Headers) (moves : List Move)
    (ran : (fresh headers).run? moves = some traffic) :
    traffic.life.channel.inFlight = (underWay traffic.history).length ∧
    (∀ move later, traffic.step? move = some later → move.ends = true →
      later.life.channel.inFlight + 1 = traffic.life.channel.inFlight) ∧
    ((¬∃ clone, .closing clone ∈ traffic.history) →
      ∀ clone method headers body, clone < traffic.clones →
        ∃ later call, traffic.step? (.start clone method headers body) = some later ∧
          accepted later.history =
            accepted traffic.history ++ [((accepted traffic.history).length, call)] ∧
          later.life.channel.inFlight = traffic.life.channel.inFlight + 1) ∧
    ((∃ clone, .closing clone ∈ traffic.history) →
      ∀ further later, traffic.run? further = some later →
        (∀ clone method headers body, clone < later.clones →
          later.step? (.start clone method headers body) =
            some (later.after later.life (.refused .channelClosed))) ∧
        accepted later.history = accepted traffic.history ∧
        later.life.channel.inFlight ≤ traffic.life.channel.inFlight) ∧
    (.returned true ∈ traffic.history → underWay traffic.history = []) := by
  have sound := (sound_fresh headers).run ran
  refine ⟨sound.counted.count_eq, fun move later => sound.inFlight_of_ends, ?_, ?_, ?_⟩
  · intro none clone method headers body held
    have opened : traffic.life.channel.closed = false := by
      rw [← Bool.not_eq_true, sound.closed_iff]
      exact none
    exact step?_start_of_open opened held method headers body
  · intro began further later runs
    have fades := fades_of_run? (sound.closed_iff.2 began) runs
    refine ⟨?_, fades.accepted_eq, fades.inFlight_le⟩
    intro clone method headers body held
    exact step?_start_of_closed fades.closed_eq held method headers body
  · intro told
    have idle := (sound.idle_of_returned told).2
    rw [sound.counted.count_eq] at idle
    exact List.length_eq_zero_iff.1 idle

/-- Two calls start through two clones and a shutdown begins through one of them. Through the other
one a third call is refused. One call fails, one is given up, and the shutdown returns true. -/
theorem counts_calls_until_closed_two :
    ∃ traffic, (fresh []).run? [.clone 0, .start 0 .getMember [] [], .start 1 .getAccounts [] [],
        .beginShutdown 1 10, .start 0 .getBanks [] [], .finish 1 3 (.error .channelClosed),
        .cancel 0, .joinShutdown 0] = some traffic ∧
      (accepted traffic.history).length = 2 ∧ traffic.life.channel.inFlight = 0 ∧
      underWay traffic.history = [] := by
  have told : ((fresh []).run? [.clone 0, .start 0 .getMember [] [], .start 1 .getAccounts [] [],
      .beginShutdown 1 10, .start 0 .getBanks [] [], .finish 1 3 (.error .channelClosed), .cancel 0,
      .joinShutdown 0]).map (fun traffic =>
        ((accepted traffic.history).length, decide (.returned true ∈ traffic.history))) =
          some (2, true) := rfl
  obtain ⟨traffic, ran, facts⟩ := Option.map_eq_some_iff.1 told
  obtain ⟨two, returned⟩ := Prod.mk.inj facts
  obtain ⟨count, -, -, -, idle⟩ := counts_calls_until_closed [] _ ran
  have none := idle (of_decide_eq_true returned)
  exact ⟨traffic, ran, two, count.trans (by rw [none]; rfl), none⟩

end Traffic

/-! ## Flows -/

namespace Session

/-- The lifecycle of the channel of a session. Between two flows no shutdown waits. -/
def life (session : Session) : Lifecycle := { channel := session.channel, events := session.events }

/-- A flow that sends a call begins it and, if it is not refused, waits until it comes to its end.
-/
theorem run_send_eq_begin_finish (session : Session) (method : Method) (headers : Headers)
    (body : List UInt8) :
    (send method headers body).run session =
      match session.life.begin method headers body with
      | (.error error, _) => (.error error, session)
      | (.ok call, begun) =>
        let answer := session.gateway session.calls call
        let elapsed := (answer.arrival.toInt - session.now.toInt).toNat
        let after := begun.finish method elapsed answer.result
        (answer.result,
          { session with
            channel := after.channel
            events := after.events
            calls := session.calls ++ [call]
            now := answer.arrival }) := by
  simp only [Flow.run, send, Lifecycle.begin, life]
  cases session.channel.admit? with
  | none => rfl
  | some channel =>
    simp only [Lifecycle.finish]
    rw [Lifecycle.settle_of_shutdowns_eq_nil _ rfl]
    rfl

/-- A flow that closes the channel begins a shutdown and waits until it returns. -/
theorem run_shutdown_eq_shutdown (session : Session) :
    shutdown.run session =
      (.ok (),
        { session with
          channel := (session.life.shutdown Channel.shutdownTimeout).2.channel
          events := (session.life.shutdown Channel.shutdownTimeout).2.events }) := by
  have drains : session.channel.close.isDrained = session.channel.isDrained := rfl
  have count : session.channel.close.inFlight = session.channel.inFlight := rfl
  simp only [shutdown, Flow.run, Flow.change, life, Lifecycle.shutdown, Lifecycle.beginShutdown,
    Lifecycle.settle, drains]
  cases drained : session.channel.isDrained <;>
    simp [Lifecycle.joinShutdown, Lifecycle.log, log, Channel.shutdownEvent, drained, drains, count]

end Session

end OpenBanking
