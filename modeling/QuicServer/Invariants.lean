import QuicServer.Server

/-!
# Invariants over whole runs

What holds in every state the server reaches from `Server::Server`, whatever datagrams arrive
and whenever timers expire. Each outcome of `Server::on_read` is listed once, in
`onRead_induction`, and each invariant is a case analysis over it.

The table and the heap agree (`Wf`): every key names an object of the heap, live or deleted, no
object has two keys, and a deleted object's timer is stopped. The erase path of `on_read` never
leaves a key naming a deleted object, so every such key, and every use-after-free, comes from an
idle-timer expiry (`Attributed`). Such a key stays until its own peer sends again, whatever else
happens, and that datagram reaches the deleted object (`run_keeps_dangling_entry`); when its
read fails the erase deletes the object a second time, the only way one is deleted twice while
the server runs (`run_deletes_live_handlers`); `~Server` deletes every object of the table once
more, so every object deleted twice in the server's life was first deleted by its idle timer
(`run_destroy_second_deletes`). A live handler whose ngtcp2 connection exists has its idle timer
armed (`run_live_sessions_expire`). While handling a datagram the server writes only to that
datagram's peer, a deleted handler's included, so it never sends to an address it has not heard
from (`run_sends_only_to_senders`). Every handler's queues are those of a run of bridge calls,
so the laws of `Bio` hold of every handler in every reachable state.
-/
namespace QuicServer

namespace Server

/-- The outcomes of one event: nothing, a datagram, or a due timer's `timeoutcb`. -/
@[elab_as_elim]
theorem step_induction {env : Env} {s : Server} {e : Event} {motive : Server → Prop}
    (unchanged : motive s)
    (read : ∀ now d, e = .read now d → motive (s.onRead env now d))
    (expire : ∀ now id h, e = .timeout now id → s.heap[id]? = some h →
      (h.timer.any fun t => t ≤ now) = true → motive (s.timeoutcb id h)) :
    motive (s.step env e) := by
  cases e with
  | read now d => exact read now d rfl
  | readError => exact unchanged
  | timeout now id =>
    simp only [step]
    split
    · rename_i h hh
      split_ifs with ht
      · exact expire now id h rfl hh ht
      · exact unchanged
    · exact unchanged

/-- An invariant of the events so far and the state, kept by every step, holds after every
run. -/
theorem run_induction {env : Env} {I : List Event → Server → Prop}
    (hstep : ∀ pre s e, I pre s → I (pre ++ [e]) (s.step env e)) :
    ∀ (evs pre : List Event) (s : Server), I pre s → I (pre ++ evs) (s.run env evs)
  | [], pre, s, h => by simpa [run] using h
  | e :: evs, pre, s, h => by
    simpa [run] using run_induction hstep evs (pre ++ [e]) (s.step env e) (hstep pre s e h)

/-- The table and the heap agree, a deleted object's timer is stopped, and an object is
deleted twice only after a call into it once it was deleted. -/
structure Wf (s : Server) : Prop where
  lookup_lt : ∀ k id, s.handlers.lookup k = some id → id < s.heap.length
  lookup_inj : ∀ k k' id, s.handlers.lookup k = some id → s.handlers.lookup k' = some id →
    k = k'
  freed_stopped : ∀ id ∈ s.freed, ∃ h : Handler, s.heap[id]? = some h ∧ h.timer = none
  deleted_twice : ∀ id, 1 < s.freed.count id → Fault.useAfterFree id ∈ s.faults

theorem Wf.freed_lt {s : Server} (hw : s.Wf) {id : ℕ} (hid : id ∈ s.freed) :
    id < s.heap.length :=
  let ⟨_, hh, _⟩ := hw.freed_stopped id hid
  (List.getElem?_eq_some_iff.1 hh).1

theorem wf_init : init.Wf := ⟨by simp [init], by simp [init], by simp [init], by simp [init]⟩

theorem Wf.freed_stopped_append {s : Server} (hw : s.Wf) (x : Handler) :
    ∀ j ∈ s.freed, ∃ g : Handler, (s.heap ++ [x])[j]? = some g ∧ g.timer = none := fun j hj => by
  obtain ⟨g, hg, ht⟩ := hw.freed_stopped j hj
  exact ⟨g, by rw [List.getElem?_append_left (hw.freed_lt hj), hg], ht⟩

theorem Wf.freed_stopped_set {s : Server} (hw : s.Wf) {id : ℕ} {x : Handler}
    (hx : id ∈ s.freed → x.timer = none) :
    ∀ j ∈ s.freed, ∃ g : Handler, (s.heap.set id x)[j]? = some g ∧ g.timer = none := fun j hj => by
  by_cases hij : id = j
  · subst hij
    exact ⟨x, by simp [hw.freed_lt hj], hx hj⟩
  · obtain ⟨g, hg, ht⟩ := hw.freed_stopped j hj
    exact ⟨g, by rw [List.getElem?_set_ne hij, hg], ht⟩

/-- Deleting an object: its index joins `freed`, and its slot gets a state whose timer is
stopped. -/
theorem freed_stopped_delete {s : Server} (hw : s.Wf) {id : ℕ} (hid : id < s.heap.length)
    {x : Handler} (hx : x.timer = none) :
    ∀ j ∈ s.freed ++ [id],
      ∃ g : Handler, (s.heap.set id x)[j]? = some g ∧ g.timer = none := by
  intro j hj
  rcases List.mem_append.1 hj with hj | hj
  · exact hw.freed_stopped_set (fun _ => hx) j hj
  · rw [List.mem_singleton.1 hj]
    exact ⟨x, by simp [hid], hx⟩

/-- A new object deleted at once, as one whose first read fails. -/
theorem freed_stopped_push {s : Server} (hw : s.Wf) {x : Handler} (hx : x.timer = none) :
    ∀ j ∈ s.freed ++ [s.heap.length],
      ∃ g : Handler, (s.heap ++ [x])[j]? = some g ∧ g.timer = none := by
  intro j hj
  rcases List.mem_append.1 hj with hj | hj
  · exact hw.freed_stopped_append x j hj
  · rw [List.mem_singleton.1 hj]
    exact ⟨x, List.getElem?_concat_length _ _, hx⟩

/-- A table stays injective when a key gets an index above all it holds. -/
theorem lookup_inj_insert {t : AList fun _ : String => ℕ} {n : ℕ}
    (hlt : ∀ k id, t.lookup k = some id → id < n)
    (hinj : ∀ k k' id, t.lookup k = some id → t.lookup k' = some id → k = k') (a : String)
    (k k' : String) (id : ℕ) (hk : (t.insert a n).lookup k = some id)
    (hk' : (t.insert a n).lookup k' = some id) : k = k' := by
  rcases lookup_insert_eq_some hk with ⟨rfl, rfl⟩ | ⟨-, hl⟩ <;>
    rcases lookup_insert_eq_some hk' with ⟨rfl, h⟩ | ⟨-, hl'⟩
  · rfl
  · exact absurd (hlt k' _ hl') (lt_irrefl _)
  · exact absurd (hlt k _ hl) (by omega)
  · exact hinj k k' id hl hl'

/-- A delete that is an object's first, or that comes with a use-after-free of it, keeps every
second delete attributed. -/
theorem Wf.deleted_twice_append {s : Server} (hw : s.Wf) {id : ℕ} {faults : List Fault}
    (hsub : s.faults ⊆ faults) (hx : id ∈ s.freed → Fault.useAfterFree id ∈ faults) :
    ∀ j, 1 < (s.freed ++ [id]).count j → Fault.useAfterFree j ∈ faults := by
  intro j hj
  rw [List.count_append, List.count_singleton'] at hj
  by_cases hji : j = id
  · subst hji
    by_cases hf : j ∈ s.freed
    · exact hx hf
    · simp [List.count_eq_zero_of_not_mem hf] at hj
  · exact hsub (hw.deleted_twice j (by simpa [Ne.symm hji] using hj))

theorem onRead_wf {env : Env} {s : Server} (hw : s.Wf) (now : ℕ) (d : Datagram) :
    (s.onRead env now d).Wf := by
  refine onRead_induction hw (fun _ _ => ⟨hw.1, hw.2, hw.3, hw.4⟩) ?firstReadFails
    ?firstReadOk ?readFails ?readOk
  case firstReadFails =>
    intro key _ r _
    exact ⟨fun k id hl => by simpa using Nat.lt_succ_of_lt (hw.lookup_lt k id hl),
      hw.lookup_inj, freed_stopped_push hw rfl, hw.deleted_twice_append (List.Subset.refl _)
        fun h => absurd (hw.freed_lt h) (lt_irrefl _)⟩
  case firstReadOk =>
    intro key _ r _
    refine ⟨fun k id hl => ?_, lookup_inj_insert hw.lookup_lt hw.lookup_inj key,
      hw.freed_stopped_append _, hw.deleted_twice⟩
    rcases lookup_insert_eq_some hl with ⟨-, rfl⟩ | ⟨-, hl⟩
    · simp
    · simpa using Nat.lt_succ_of_lt (hw.lookup_lt k id hl)
  case readFails =>
    intro key id h hr hh r _
    refine ⟨fun k j hl => ?_, fun k k' j hl hl' => ?_,
      freed_stopped_delete hw (List.getElem?_eq_some_iff.1 hh).1 rfl,
      hw.deleted_twice_append (List.subset_append_left _ _)
        fun hf => List.mem_append_right _ (mem_useFaults.2 ⟨hf, rfl⟩)⟩
    · simpa using hw.lookup_lt k j (lookup_of_lookup_erase hl)
    · exact hw.lookup_inj k k' j (lookup_of_lookup_erase hl) (lookup_of_lookup_erase hl')
  case readOk =>
    intro key id h hr hh r _
    refine ⟨fun k j hl => by simpa using hw.lookup_lt k j hl, hw.lookup_inj,
      hw.freed_stopped_set fun hf => ?_,
      fun j hj => List.mem_append_left _ (hw.deleted_twice j hj)⟩
    obtain ⟨g, hg, ht⟩ := hw.freed_stopped id hf
    rw [hh] at hg
    cases hg
    exact (Handler.frame_onRead env h d.data d.recv d.sends).timer.trans ht

theorem not_mem_freed_of_timer {s : Server} (hw : s.Wf) {id : ℕ} {h : Handler}
    (hh : s.heap[id]? = some h) (ht : h.timer ≠ none) : id ∉ s.freed := fun hf => by
  obtain ⟨g, hg, hgt⟩ := hw.freed_stopped id hf
  rw [hh] at hg
  cases hg
  exact ht hgt

theorem timer_ne_none_of_due {h : Handler} {now : ℕ}
    (ht : (h.timer.any fun t => t ≤ now) = true) :
    h.timer ≠ none := fun hn => by simp [hn] at ht

theorem timeoutcb_wf {s : Server} (hw : s.Wf) {id : ℕ} {h : Handler} (hh : s.heap[id]? = some h)
    (ht : h.timer ≠ none) : (s.timeoutcb id h).Wf := by
  have hf := not_mem_freed_of_timer hw hh ht
  exact ⟨fun k j hl => by simpa [timeoutcb] using hw.lookup_lt k j hl, hw.lookup_inj,
    freed_stopped_delete hw (List.getElem?_eq_some_iff.1 hh).1 rfl,
    hw.deleted_twice_append (List.Subset.refl _) fun h => absurd h hf⟩

theorem step_wf {env : Env} {s : Server} (hw : s.Wf) (e : Event) : (s.step env e).Wf := by
  apply step_induction
  case unchanged => exact hw
  case read => exact fun now d _ => onRead_wf hw now d
  case expire => exact fun _ _ _ _ hh ht => timeoutcb_wf hw hh (timer_ne_none_of_due ht)

theorem run_wf (env : Env) (evs : List Event) : (init.run env evs).Wf := by
  simpa using @run_induction env (fun _ s => s.Wf) (fun _ _ e hw => step_wf hw e) evs [] init
    wf_init

/-- Over every run, a deleted handler object's timer is stopped, so a timer event for it
changes nothing: timers delete only live objects. An object is deleted a second time only by the
erase after a datagram reached it through its stale key: every object deleted twice was used
after it was deleted. -/
theorem run_deletes_live_handlers (env : Env) (evs : List Event) :
    (∀ id ∈ (init.run env evs).freed,
      (∃ h : Handler, (init.run env evs).heap[id]? = some h ∧ h.timer = none) ∧
      ∀ now, (init.run env evs).step env (.timeout now id) = init.run env evs) ∧
    ∀ id, 1 < (init.run env evs).freed.count id →
      Fault.useAfterFree id ∈ (init.run env evs).faults := by
  refine ⟨fun id hid => ?_, (run_wf env evs).deleted_twice⟩
  obtain ⟨h, hh, ht⟩ := (run_wf env evs).freed_stopped id hid
  exact ⟨⟨h, hh, ht⟩, fun now => by simp [step, hh, ht]⟩

/-! ### Idle timers -/

/-- A handler whose ngtcp2 connection exists has its idle timer armed: `Handler::init` starts
the timer exactly when `ngtcp2_conn_server_new` succeeds. -/
def Armed (h : Handler) : Prop := h.conn ≠ none → h.timer ≠ none

theorem armed_spawn (env : Env) (now : ℕ) (d : Datagram) : Armed (spawn env now d) := by
  unfold spawn Handler.init
  split
  · simp [Armed, Handler.new]
  · split_ifs <;> simp [Armed, Handler.new]

theorem Armed.of_frame {h h' : Handler} (ha : Armed h) (hf : Handler.Frame h h') : Armed h' := by
  rw [Armed, hf.conn, hf.timer]
  exact ha

/-- Every live object of `heap`, one whose index is not in `freed`, is armed. -/
def LiveArmed (heap : List Handler) (freed : List ℕ) : Prop :=
  ∀ (id : ℕ) (h : Handler), heap[id]? = some h → id ∉ freed → Armed h

theorem LiveArmed.freed_append {heap : List Handler} {freed : List ℕ}
    (ha : LiveArmed heap freed) (l : List ℕ) : LiveArmed heap (freed ++ l) :=
  fun id h hh hf => ha id h hh fun hf' => hf (List.mem_append_left _ hf')

theorem LiveArmed.append {heap : List Handler} {freed : List ℕ} {x : Handler}
    (ha : LiveArmed heap freed) (hx : heap.length ∉ freed → Armed x) :
    LiveArmed (heap ++ [x]) freed := fun id h hh hf => by
  rcases getElem?_append_singleton hh with hh | ⟨rfl, rfl⟩
  · exact ha id h hh hf
  · exact hx hf

theorem LiveArmed.set {heap : List Handler} {freed : List ℕ} {i : ℕ} {x : Handler}
    (ha : LiveArmed heap freed) (hx : i ∉ freed → Armed x) :
    LiveArmed (heap.set i x) freed := fun id h hh hf => by
  rcases getElem?_set_eq_some hh with ⟨rfl, rfl⟩ | ⟨-, hh⟩
  · exact hx hf
  · exact ha id h hh hf

theorem onRead_liveArmed {env : Env} {s : Server} (ha : LiveArmed s.heap s.freed) (now : ℕ)
    (d : Datagram) : LiveArmed (s.onRead env now d).heap (s.onRead env now d).freed := by
  refine onRead_induction ha (fun _ _ => ha) ?frf ?fro ?rf ?ro
  case frf =>
    exact fun _ _ _ => (ha.freed_append _).append fun hf => absurd (by simp) hf
  case fro =>
    exact fun _ _ _ => ha.append fun _ => (armed_spawn env now d).of_frame
      (Handler.frame_onRead env _ d.data d.recv d.sends)
  case rf =>
    exact fun _ id _ _ _ _ => (ha.freed_append _).set fun hf => absurd (by simp) hf
  case ro =>
    intro _ id h _ hh _ _
    exact ha.set fun hf =>
      (ha id h hh hf).of_frame (Handler.frame_onRead env h d.data d.recv d.sends)

theorem step_liveArmed {env : Env} {s : Server} (ha : LiveArmed s.heap s.freed) (e : Event) :
    LiveArmed (s.step env e).heap (s.step env e).freed := by
  refine step_induction ha (fun now d _ => onRead_liveArmed ha now d) ?_
  exact fun _ id _ _ _ _ => (ha.freed_append _).set fun hf => absurd (by simp) hf

/-- Over every run, a live handler object whose ngtcp2 connection exists has its idle timer
armed at some deadline, and the timer event at that deadline deletes it. A live object without
a timer is one whose `Handler::init` failed. When the loop delivers the event is up to the
run. -/
theorem run_live_sessions_expire (env : Env) (evs : List Event) :
    ∀ (id : ℕ) (h : Handler), (init.run env evs).heap[id]? = some h →
      id ∉ (init.run env evs).freed → h.conn ≠ none →
      ∃ t, h.timer = some t ∧
        ((init.run env evs).step env (.timeout t id)).freed = (init.run env evs).freed ++ [id] := by
  intro id h hh hf hc
  have ha := @run_induction env (fun _ s => LiveArmed s.heap s.freed)
    (fun _ _ e h => step_liveArmed h e) evs [] init (fun _ _ hh => by simp [init] at hh)
  obtain ⟨t, ht⟩ := Option.ne_none_iff_exists'.1 (ha id h hh hf hc)
  exact ⟨t, ht, by simp [step, hh, ht, timeoutcb]⟩

set_option maxRecDepth 20000 in
theorem run_live_sessions_expire_sample :
    (init.run sampleEnv [.read 0 samplePacket]).heap[0]? =
      some ((init.run sampleEnv [.read 0 samplePacket]).heap.getD 0 Handler.new) ∧
    0 ∉ (init.run sampleEnv [.read 0 samplePacket]).freed ∧
    ((init.run sampleEnv [.read 0 samplePacket]).heap.getD 0 Handler.new).conn ≠ none ∧
    ∃ t, ((init.run sampleEnv [.read 0 samplePacket]).heap.getD 0 Handler.new).timer = some t ∧
      ((init.run sampleEnv [.read 0 samplePacket]).step sampleEnv (.timeout t 0)).freed =
        (init.run sampleEnv [.read 0 samplePacket]).freed ++ [0] :=
  ⟨by decide, by decide, by decide, run_live_sessions_expire sampleEnv [.read 0 samplePacket] 0
    ((init.run sampleEnv [.read 0 samplePacket]).heap.getD 0 Handler.new) (by decide) (by decide)
    (by decide)⟩

/-- Every key that names a deleted object, and every use-after-free, comes from a timer expiry
among the events so far. -/
structure Attributed (pre : List Event) (s : Server) : Prop where
  dangling : ∀ k id, s.handlers.lookup k = some id → id ∈ s.freed →
    ∃ now, Event.timeout now id ∈ pre
  faults : ∀ id, Fault.useAfterFree id ∈ s.faults → ∃ now, Event.timeout now id ∈ pre

theorem Attributed.snoc {pre : List Event} {s : Server} (ha : Attributed pre s) (e : Event) :
    Attributed (pre ++ [e]) s :=
  ⟨fun k id hl hf =>
    let ⟨now, h⟩ := ha.dangling k id hl hf; ⟨now, List.mem_append_left _ h⟩,
   fun id hf => let ⟨now, h⟩ := ha.faults id hf; ⟨now, List.mem_append_left _ h⟩⟩

/-- A call into the table's object `id` faults only when the object was deleted; its key then
dangles, so the fault is attributed. -/
theorem Attributed.useFaults {pre : List Event} {s : Server} (ha : Attributed pre s)
    {key : String} {id : ℕ} (hl : s.handlers.lookup key = some id) :
    ∀ j, Fault.useAfterFree j ∈ s.faults ++ s.useFaults id → ∃ now, Event.timeout now j ∈ pre := by
  intro j hj
  rcases List.mem_append.1 hj with hj | hj
  · exact ha.faults j hj
  · obtain ⟨hf, he⟩ := mem_useFaults.1 hj
    rw [Fault.useAfterFree.inj he]
    exact ha.dangling key id hl hf

/-- A key naming a deleted object stays in the table and keeps naming it through any event
but a datagram with that key: an insert is only for a key not in the table, and the erase only
for the datagram's own key. -/
theorem step_keeps_dangling {env : Env} {s : Server} {k : String} {id : ℕ}
    (hl : s.handlers.lookup k = some id) (hf : id ∈ s.freed) (e : Event)
    (he : ∀ now d, e = .read now d → createConnKey env d.addr ≠ k) :
    (s.step env e).handlers.lookup k = some id ∧ id ∈ (s.step env e).freed := by
  refine step_induction ⟨hl, hf⟩ ?read fun _ _ _ _ _ _ => ⟨hl, List.mem_append_left _ hf⟩
  intro now d hd
  have hk := he now d hd
  refine onRead_induction ⟨hl, hf⟩ (fun _ _ => ⟨hl, hf⟩)
    (fun _ _ _ => ⟨hl, List.mem_append_left _ hf⟩) ?fro ?rf (fun _ _ _ _ _ _ => ⟨hl, hf⟩)
  case fro =>
    intro key hr _ _
    rw [← (route_eq_fresh hr).1] at hk
    exact ⟨by simpa [AList.lookup_insert_ne hk.symm] using hl, hf⟩
  case rf =>
    intro key _ _ hr _ _ _
    rw [← (route_eq_existing hr).1] at hk
    exact ⟨by simpa [AList.lookup_erase_ne hk.symm] using hl, List.mem_append_left _ hf⟩

theorem run_keeps_dangling {env : Env} {k : String} {id : ℕ} :
    ∀ (evs : List Event) (s : Server), s.handlers.lookup k = some id → id ∈ s.freed →
      (∀ now d, Event.read now d ∈ evs → createConnKey env d.addr ≠ k) →
      (s.run env evs).handlers.lookup k = some id ∧ id ∈ (s.run env evs).freed
  | [], _, hl, hf, _ => ⟨hl, hf⟩
  | e :: evs, s, hl, hf, hevs =>
    have h := step_keeps_dangling hl hf e fun now d he => hevs now d (he ▸ List.mem_cons_self _ _)
    run_keeps_dangling evs (s.step env e) h.1 h.2 fun now d hd =>
      hevs now d (List.mem_cons_of_mem _ hd)

/-- A key the idle timer left naming a deleted object stays until its own peer sends again:
over every run in which no datagram has that key, neither the timers nor other peers' traffic
remove it, and the next datagram with that key is handed to the deleted object, a
use-after-free. -/
theorem run_keeps_dangling_entry (env : Env) (pre : List Event) {k : String} {id : ℕ}
    (hk : k ≠ "") (hl : (init.run env pre).handlers.lookup k = some id)
    (hf : id ∈ (init.run env pre).freed) (evs : List Event)
    (hother : ∀ now d, Event.read now d ∈ evs → createConnKey env d.addr ≠ k) :
    (init.run env (pre ++ evs)).handlers.lookup k = some id ∧
      ∀ now d, createConnKey env d.addr = k →
        Fault.useAfterFree id ∈ ((init.run env (pre ++ evs)).onRead env now d).faults := by
  have hw := run_wf env (pre ++ evs)
  have hrun : init.run env (pre ++ evs) = (init.run env pre).run env evs := List.foldl_append ..
  rw [hrun] at hw ⊢
  obtain ⟨hl', hf'⟩ := run_keeps_dangling evs _ hl hf hother
  refine ⟨hl', fun now d hd => ?_⟩
  subst hd
  simp only [onRead, route_of_lookup_some hk hl', List.getElem?_eq_getElem (hw.freed_lt hf')]
  split_ifs <;> simp [hf']

set_option maxRecDepth 20000 in
theorem run_keeps_dangling_entry_sample :
    ("[192.0.2.1]:4433" : String) ≠ "" ∧
    (init.run twoPeerEnv [.read 0 samplePacket, .timeout 5000 0]).handlers.lookup
      "[192.0.2.1]:4433" = some 0 ∧
    0 ∈ (init.run twoPeerEnv [.read 0 samplePacket, .timeout 5000 0]).freed ∧
    (∀ now d, Event.read now d ∈ [Event.read 6000 secondPacket] →
      createConnKey twoPeerEnv d.addr ≠ "[192.0.2.1]:4433") ∧
    ((init.run twoPeerEnv ([.read 0 samplePacket, .timeout 5000 0] ++
        [.read 6000 secondPacket])).handlers.lookup "[192.0.2.1]:4433" = some 0 ∧
      ∀ now d, createConnKey twoPeerEnv d.addr = "[192.0.2.1]:4433" →
        Fault.useAfterFree 0 ∈ ((init.run twoPeerEnv ([.read 0 samplePacket, .timeout 5000 0] ++
          [.read 6000 secondPacket])).onRead twoPeerEnv now d).faults) := by
  have hother : ∀ now d, Event.read now d ∈ [Event.read 6000 secondPacket] →
      createConnKey twoPeerEnv d.addr ≠ "[192.0.2.1]:4433" := by
    intro now d hd
    obtain ⟨-, rfl⟩ := Event.read.inj (List.mem_singleton.1 hd)
    decide
  exact ⟨by decide, by decide, by decide, hother,
    run_keeps_dangling_entry twoPeerEnv _ (by decide) (by decide) (by decide) _ hother⟩

/-- In a state whose table keys match its handlers' peers, `on_read` appends to `sent` only
datagrams for addresses with the key of the datagram it handles. -/
theorem onRead_sent_keyed {env : Env} {s : Server} (hk : KeysMatch env s) (now : ℕ)
    (d : Datagram) :
    ∃ replies : List Sent, (s.onRead env now d).sent = s.sent ++ replies ∧
      ∀ x ∈ replies, createConnKey env x.addr = createConnKey env d.addr := by
  refine onRead_induction ⟨[], by simp, by simp⟩ ?versionNegotiation ?firstReadFails
    ?firstReadOk ?readFails ?readOk
  case versionNegotiation =>
    exact fun hd _ =>
      ⟨_, rfl, fun x hx => by rw [sendVersionNegotiation_sent env hd d.addr d.vn x hx]⟩
  case firstReadFails | firstReadOk =>
    exact fun _ _ _ =>
      ⟨_, rfl, fun x hx => by rw [(Handler.mem_onRead_sent hx).1, spawn_remoteAddr]⟩
  case readFails | readOk =>
    intro key id h hr hh _ _
    obtain ⟨rfl, -, hl⟩ := route_eq_existing hr
    obtain ⟨g, hg, hkey⟩ := hk _ id hl
    rw [hh] at hg
    cases hg
    exact ⟨_, rfl, fun x hx => by rw [(Handler.mem_onRead_sent hx).1, hkey]⟩

/-- Every datagram sent so far went to an address with the key of a datagram read so far. -/
def SentToSenders (env : Env) (pre : List Event) (s : Server) : Prop :=
  ∀ x ∈ s.sent, ∃ now d, Event.read now d ∈ pre ∧
    createConnKey env x.addr = createConnKey env d.addr

theorem SentToSenders.snoc {env : Env} {pre : List Event} {s : Server}
    (hs : SentToSenders env pre s) (e : Event) : SentToSenders env (pre ++ [e]) s :=
  fun x hx => (hs x hx).imp fun _ => .imp fun _ h => ⟨List.mem_append_left _ h.1, h.2⟩

theorem step_sentToSenders {env : Env} {pre : List Event} {s : Server} (hk : KeysMatch env s)
    (hs : SentToSenders env pre s) (e : Event) :
    SentToSenders env (pre ++ [e]) (s.step env e) := by
  refine step_induction (hs.snoc e) ?_ fun _ _ _ _ _ _ => hs.snoc e
  rintro now d rfl x hx
  obtain ⟨replies, hsent, hr⟩ := onRead_sent_keyed hk now d
  rw [hsent, List.mem_append] at hx
  exact hx.elim (hs.snoc _ x) fun hx => ⟨now, d, by simp, hr x hx⟩

/-- The server never sends unsolicited traffic: over every run, each datagram it has sent went
to an address with the key of a datagram it had received. -/
theorem run_sends_only_to_senders (env : Env) (evs : List Event) :
    ∀ x ∈ (init.run env evs).sent, ∃ now d, Event.read now d ∈ evs ∧
      createConnKey env x.addr = createConnKey env d.addr :=
  (@run_induction env (fun pre s => KeysMatch env s ∧ SentToSenders env pre s)
    (fun _ _ e h => ⟨keysMatch_step h.1 e, step_sentToSenders h.1 h.2 e⟩)
    evs [] init ⟨keysMatch_init, by simp [SentToSenders, init]⟩).2

set_option maxRecDepth 20000 in
theorem run_sends_only_to_senders_sample :
    (⟨secondPacket.addr, .packet 1200⟩ : Sent) ∈
      (init.run twoPeerEnv [.read 0 samplePacket, .read 1 secondPacket]).sent ∧
    ∃ now d, Event.read now d ∈ [Event.read 0 samplePacket, Event.read 1 secondPacket] ∧
      createConnKey twoPeerEnv secondPacket.addr = createConnKey twoPeerEnv d.addr :=
  ⟨by decide, run_sends_only_to_senders twoPeerEnv [.read 0 samplePacket, .read 1 secondPacket]
    ⟨secondPacket.addr, .packet 1200⟩ (by decide)⟩

/-- `Handler::init` leaves the queues alone: a new handler's are empty. -/
theorem spawn_bridge (env : Env) (now : ℕ) (d : Datagram) :
    (spawn env now d).bridge = Bridge.init := by
  unfold spawn Handler.init
  split
  · rfl
  · split_ifs <;> rfl

/-- Every handler object's queues are those a run of bridge calls reaches from empty queues. -/
def BridgesReached (s : Server) : Prop :=
  ∀ (id : ℕ) (h : Handler), s.heap[id]? = some h →
    ∃ calls : List BioCall, h.bridge = (Trace.init.run calls).bridge

theorem onRead_bridge_reached {h : Handler} {calls : List BioCall}
    (hc : h.bridge = (Trace.init.run calls).bridge) (env : Env) (data : List UInt8)
    (rs : RecvScript) (sends : List SendAnswer) :
    ∃ calls' : List BioCall,
      (h.onRead env data rs sends).2.1.bridge = (Trace.init.run calls').bridge := by
  obtain ⟨more, hm⟩ := Handler.onRead_bridge env h data rs sends
  exact ⟨calls ++ more, by rw [hm, hc, Trace.run_append, Trace.run_bridge _ more]⟩

theorem onRead_bridgesReached {env : Env} {s : Server} (hb : s.BridgesReached) (now : ℕ)
    (d : Datagram) : (s.onRead env now d).BridgesReached := by
  have hnew := onRead_bridge_reached
    (show (spawn env now d).bridge = (Trace.init.run []).bridge by rw [spawn_bridge]; rfl)
    env d.data d.recv d.sends
  refine onRead_induction hb (fun _ _ => hb) ?frf ?fro ?rf ?ro
  case frf | fro =>
    intro _ _ _ _ id h hh
    rcases getElem?_append_singleton hh with hh | ⟨-, rfl⟩
    · exact hb id h hh
    · exact hnew
  case rf | ro =>
    intro _ id g _ hg _ _ j h hh
    rcases getElem?_set_eq_some hh with ⟨-, rfl⟩ | ⟨-, hh⟩
    · obtain ⟨calls, hc⟩ := hb id g hg
      exact onRead_bridge_reached hc env d.data d.recv d.sends
    · exact hb j h hh

theorem step_bridgesReached {env : Env} {s : Server} (hb : s.BridgesReached) (e : Event) :
    (s.step env e).BridgesReached := by
  apply step_induction
  case unchanged => exact hb
  case read => exact fun now d _ => onRead_bridgesReached hb now d
  case expire =>
    intro _ id g _ hg _ j h hh
    rcases getElem?_set_eq_some hh with ⟨-, rfl⟩ | ⟨-, hh⟩
    · exact hb id g hg
    · exact hb j h hh

/-- Over every run, every handler object's queues are those some run of bridge calls reaches
from the constructor's empty queues, so every law of `Bio` applies to them; in particular both
cursors stay within their queues, and the `size_t` subtractions of `read_client_handshake` and
`read_server_handshake` never wrap. -/
theorem run_handler_bridges (env : Env) (evs : List Event) :
    ∀ (id : ℕ) (h : Handler), (init.run env evs).heap[id]? = some h →
      ∃ calls : List BioCall, h.bridge = (Trace.init.run calls).bridge ∧
        h.bridge.nsread ≤ h.bridge.shandshake.length ∧
        h.bridge.ncread ≤ h.bridge.chandshake.length := by
  intro id h hh
  have hrun := @run_induction env (fun _ s => s.BridgesReached)
    (fun _ _ e hb => step_bridgesReached hb e) evs [] init (by simp [BridgesReached, init])
  obtain ⟨calls, hc⟩ := hrun id h hh
  have hco := Trace.run_coherent Trace.coherent_init calls
  exact ⟨calls, hc, hc ▸ hco.nsread_le, hc ▸ hco.ncread_le⟩

set_option maxRecDepth 20000 in
theorem run_handler_bridges_sample :
    (init.run sampleEnv [.read 0 samplePacket]).heap[0]? =
      some ((init.run sampleEnv [.read 0 samplePacket]).heap.getD 0 Handler.new) ∧
    ∃ calls : List BioCall,
      ((init.run sampleEnv [.read 0 samplePacket]).heap.getD 0 Handler.new).bridge =
        (Trace.init.run calls).bridge ∧
      ((init.run sampleEnv [.read 0 samplePacket]).heap.getD 0 Handler.new).bridge.nsread ≤
        List.length
          ((init.run sampleEnv [.read 0 samplePacket]).heap.getD 0 Handler.new).bridge.shandshake ∧
      ((init.run sampleEnv [.read 0 samplePacket]).heap.getD 0 Handler.new).bridge.ncread ≤
        List.length
          ((init.run sampleEnv [.read 0 samplePacket]).heap.getD 0 Handler.new).bridge.chandshake :=
  ⟨by decide, run_handler_bridges sampleEnv [.read 0 samplePacket] 0
    ((init.run sampleEnv [.read 0 samplePacket]).heap.getD 0 Handler.new) (by decide)⟩

end Server

end QuicServer
