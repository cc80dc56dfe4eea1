import Mathlib.Order.WellFounded
import PeerChat.Proofs.Schedule.Starts

/-!
How a schedule goes on. At every moment something can happen, but only so much: each thing that happens takes something
off the load of the moment, and when nothing more can happen time goes on.

* `load_of_move`: what happens at a moment lightens its load;
* `wellFounded_step`: so no schedule stays before a time for ever;
* `exists_step`: and it never gets stuck;
* `reachable_run`: the fixed order is one of the ways in which a schedule can go on.
-/

namespace PeerChat.Schedule

/-- No timer fires all the time. -/
structure Periods.Positive (p : Periods) : Prop where
  messages : 0 < p.messages
  roster : 0 < p.roster
  transfers : 0 < p.transfers
  liveness : 0 < p.liveness

lemma Periods.Positive.get {p : Periods} (h : p.Positive) (timer : Timer) : 0 < p.get timer := by
  cases timer with
  | messages => exact h.messages
  | roster => exact h.roster
  | transfers => exact h.transfers
  | liveness => exact h.liveness

namespace Run

variable (r : Run)

/-! ### What adds to the load -/

/-- How much requests add to the load. -/
def weight (requests : List Request) : Nat := 2 * requests.length + 4 * requests.countP (!·.isFetch)

lemma weight_singleton_le (request : Request) : weight [request] ≤ 6 := by
  cases request <;> exact Nat.le_of_ble_eq_true rfl

lemma weight_cons (request : Request) (requests : List Request) :
    weight (request :: requests) = weight [request] + weight requests := by
  unfold weight
  rw [List.countP_cons, List.countP_singleton, List.length_cons, List.length_singleton]
  omega

lemma load_enqueue (job : Job) : (r.enqueue job).load = r.load + (2 + 4 * [job].countP Job.bringsFetches) := by
  unfold load enqueue note
  dsimp only
  rw [List.length_append, List.countP_append, List.length_singleton]
  omega

lemma load_start (request : Request) : (r.start request).load = r.load + weight [request] := by
  cases request with
  | fetch resource forced => exact load_enqueue { r with sequences := _ } (.fetch resource _ forced)
  | probe => exact r.load_enqueue .probe
  | sendText text purpose => exact r.load_enqueue (.sendText text purpose)
  | sendFile path target => exact r.load_enqueue (.sendFile path target)
  | respond response => exact r.load_enqueue (.respond response)

lemma load_startAll (requests : List Request) : (r.startAll requests).load = r.load + weight requests := by
  induction requests generalizing r with
  | nil => rfl
  | cons request requests ih =>
    show ((r.start request).startAll requests).load = _
    rw [ih, load_start, weight_cons request requests, Nat.add_assoc]

lemma load_take (turn : Turn) : (r.take turn).load = r.load + weight turn.requests := by
  have hnotes : ∀ (events : List Event) (r : Run),
      (events.foldl (fun r event => r.note (.shown event)) r).load = r.load := by
    intro events
    induction events with
    | nil => exact fun r => rfl
    | cons event events ih => exact fun r => ih (r.note (.shown event))
  unfold take
  rw [load_startAll, hnotes]
  rfl

/-! ### What takes off the load -/

lemma countP_set {t : Timers} {timer : Timer} {now later : Nat} (hdue : t.get timer ≤ now) (hlt : now < later) :
    Timer.all.countP ((t.set timer later).get · ≤ now) + 1 = Timer.all.countP (t.get · ≤ now) := by
  obtain ⟨before, after, hall, hbefore, hafter⟩ :
      ∃ before after, Timer.all = before ++ timer :: after ∧ timer ∉ before ∧ timer ∉ after := by
    cases timer with
    | messages => exact ⟨[], _, rfl, by decide, by decide⟩
    | roster => exact ⟨[.messages], _, rfl, by decide, by decide⟩
    | transfers => exact ⟨[.messages, .roster], _, rfl, by decide, by decide⟩
    | liveness => exact ⟨[.messages, .roster, .transfers], _, rfl, by decide, by decide⟩
  -- the other timers stand as they did
  have hothers {timers : List Timer} (h : timer ∉ timers) :
      timers.countP ((t.set timer later).get · ≤ now) = timers.countP (t.get · ≤ now) := by
    refine List.countP_congr fun other hother => ?_
    rw [PerTimer.get_set_of_ne t later fun heq : other = timer => h (heq ▸ hother)]
  rw [hall, List.countP_append, List.countP_append, hothers hbefore, List.countP_cons_of_neg (by simpa using hlt),
    List.countP_cons_of_pos (by simpa using hdue), hothers hafter, Nat.add_assoc]

lemma load_tick {setting : Setting} (hpositive : setting.periods.Positive) {timer : Timer}
    (hdue : r.timers.get timer ≤ r.now) : (r.tick setting timer).load < r.load := by
  have hrequests : weight timer.requests ≤ 6 := by cases timer <;> decide
  have hcount := countP_set hdue (Nat.lt_add_of_pos_right (hpositive.get timer))
  unfold tick
  rw [load_startAll]
  unfold load
  dsimp only
  omega

lemma bringsFetches_of_answers {completion : Completion} {job : Job} (h : Answers job completion) :
    bringsFetches completion = job.bringsFetches := by
  cases h <;> rfl

variable {r}

lemma load_perform (setting : Setting) {before after : List Job} {job : Job}
    (hqueue : r.queue = before ++ job :: after) :
    ({ r with queue := before ++ after }.perform setting job).load < r.load := by
  obtain ⟨⟨log, tally, waiting, hrun⟩, -, answer, hwaiting, hanswer⟩ :=
    performed { r with queue := before ++ after } setting job
  rw [hrun] at hwaiting ⊢
  have hanswers : answer.toList.countP (·.1 ≤ r.now) ≤ 1 ∧
      (answer.toList.countP fun answer => answer.1 ≤ r.now ∧ bringsFetches answer.2) ≤
        [job].countP Job.bringsFetches := by
    cases answer with
    | none => exact ⟨Nat.zero_le _, Nat.zero_le _⟩
    | some a =>
      have hkind := bringsFetches_of_answers (hanswer a rfl)
      refine ⟨List.countP_le_length, ?_⟩
      by_cases hdue : a.1 ≤ r.now
      · simp [hdue, hkind, List.countP_singleton]
      · simp [hdue]
  unfold load
  rw [show waiting = r.waiting ++ answer.toList from hwaiting, hqueue]
  simp only [List.length_append, List.length_cons, List.countP_append, List.countP_cons, List.countP_nil] at hanswers ⊢
  omega

lemma load_take_complete {before after : List (Nat × Completion)} {time : Nat} {completion : Completion}
    (hwaiting : r.waiting = before ++ (time, completion) :: after) (hdue : time ≤ r.now) :
    ({ r with waiting := before ++ after }.take (r.session.complete completion)).load < r.load := by
  have hrequests : weight (r.session.complete completion).requests ≤ if bringsFetches completion then 4 else 0 := by
    cases completion with
    | fetched seq forced snapshot => exact (congrArg weight (r.session.requests_fetched seq forced snapshot)).le
    | fetchFailed resource failure => exact (congrArg weight (r.session.requests_fetchFailed resource failure)).le
    | probed | sent | fileOffered | responded =>
      rcases r.session.requests_complete _ with h | ⟨first, second, h⟩
      · rw [h]
        exact Nat.zero_le _
      · rw [h]
        exact Nat.le_refl 4
  have hcount : ((time, completion) :: after).countP (·.1 ≤ r.now) = after.countP (·.1 ≤ r.now) + 1 :=
    List.countP_cons_of_pos (decide_eq_true hdue)
  have hbrings : (((time, completion) :: after).countP fun answer => answer.1 ≤ r.now ∧ bringsFetches answer.2) =
      (after.countP fun answer => answer.1 ≤ r.now ∧ bringsFetches answer.2) +
        if bringsFetches completion then 1 else 0 := by
    rw [List.countP_cons]
    simp [hdue]
  rw [load_take]
  unfold load
  dsimp only
  rw [hwaiting, List.countP_append, List.countP_append, List.countP_append, List.countP_append, hcount, hbrings]
  split at hrequests
  · next hkind => rw [if_pos hkind]; omega
  · next hkind => rw [if_neg hkind]; omega

lemma now_obey (r : Run) (command : Command) : (r.obey command).now = r.now := by
  unfold obey
  split_ifs
  · rfl
  · rfl
  · exact (r.begins_take _).now

lemma load_obey {before after : List (Nat × Command)} {time : Nat} {command : Command}
    (hcommands : r.commands = before ++ (time, command) :: after) (hdue : time ≤ r.now) :
    ({ r with commands := before ++ after }.obey command).load < r.load := by
  have hremoved : ({ r with commands := before ++ after } : Run).load + 7 = r.load := by
    unfold load
    dsimp only
    have hcount : ((time, command) :: after).countP (·.1 ≤ r.now) = after.countP (·.1 ≤ r.now) + 1 :=
      List.countP_cons_of_pos (decide_eq_true hdue)
    rw [hcommands, List.countP_append, List.countP_append, hcount]
    omega
  have hrequests : weight (r.session.command command).requests ≤ 6 := by
    rcases r.session.requests_command command with h | ⟨request, h, -⟩
    · rw [h]
      exact Nat.zero_le _
    · rw [h]
      exact weight_singleton_le request
  unfold obey
  split_ifs
  · omega
  · show ({ r with commands := before ++ after } : Run).load < _
    omega
  · rw [load_take]
    show _ + weight (r.session.command command).requests < _
    omega

end Run

section Steps

variable {setting : Setting} {r r' : Run}

/-- Whatever happens at a moment lightens its load. -/
theorem load_of_move (hpositive : setting.periods.Positive) (h : Move setting r r') :
    r'.now = r.now ∧ r'.load < r.load := by
  cases h with
  | tick timer due => exact ⟨(Run.begins_startAll _ timer.requests).now, r.load_tick hpositive due⟩
  | call queue => exact ⟨(Run.begins_perform setting queue).now, Run.load_perform setting queue⟩
  | answer waiting due => exact ⟨(Run.begins_answer waiting).now, Run.load_take_complete waiting due⟩
  | command commands first due => exact ⟨Run.now_obey _ _, Run.load_obey commands due⟩

/-- No schedule stays before a time for ever. -/
theorem wellFounded_step (hpositive : setting.periods.Positive) (stop : Nat) :
    WellFounded fun r' r : Run => Step setting r r' ∧ r'.now ≤ stop := by
  -- the time that is left goes down, or it stays and the load of the moment does
  have hlex := InvImage.wf (fun r : Run => (stop - r.now, r.load))
    (WellFounded.prod_lex Nat.lt_wfRel.wf Nat.lt_wfRel.wf)
  refine Subrelation.wf (fun {r' r} h => ?_) hlex
  obtain ⟨hstep, hstop⟩ := h
  cases hstep with
  | move hmove =>
    obtain ⟨hnow, hload⟩ := load_of_move hpositive hmove
    show Prod.Lex _ _ (stop - r'.now, r'.load) (stop - r.now, r.load)
    rw [hnow]
    exact .right _ hload
  | pass lt idle => exact .left _ _ (Nat.sub_lt_sub_left (lt.trans_le hstop) lt)

end Steps

/-! ### The fixed order -/

section Order

lemma exists_of_find? {α : Type} {p : α → Bool} {l : List α} {a : α} (h : l.find? p = some a) :
    ∃ before after, l = before ++ a :: after ∧ (∀ b ∈ before, p b = false) ∧ p a = true ∧
      l.eraseP p = before ++ after := by
  obtain ⟨ha, before, after, hl, hbefore⟩ := List.find?_eq_some_iff_append.1 h
  have hbefore' : ∀ b ∈ before, p b = false := fun b hb => by simpa using hbefore b hb
  refine ⟨before, after, hl, hbefore', ha, ?_⟩
  rw [hl, List.eraseP_append_right _ fun b hb => by simp [hbefore' b hb], List.eraseP_cons_of_pos ha]

variable {setting : Setting} {r r' : Run}

lemma move_of_move? (h : r.move? setting = some r') : Move setting r r' := by
  unfold Run.move? at h
  split at h
  · next time completion hfind =>
    obtain ⟨before, after, hwaiting, -, hdue, herase⟩ := exists_of_find? hfind
    rw [herase] at h
    cases h
    exact .answer hwaiting (of_decide_eq_true hdue)
  · split at h
    · next job queue hqueue =>
      cases h
      exact .call (show r.queue = [] ++ job :: queue from hqueue)
    · split at h
      · next timer hfind =>
        obtain ⟨before, after, -, -, hdue, -⟩ := exists_of_find? hfind
        cases h
        exact .tick timer (of_decide_eq_true hdue)
      · obtain ⟨⟨time, command⟩, hfind, rfl⟩ := Option.map_eq_some_iff.1 h
        obtain ⟨before, after, hcommands, hbefore, hdue, herase⟩ := exists_of_find? hfind
        rw [herase]
        exact .command hcommands (fun earlier hearlier => Nat.lt_of_not_le (of_decide_eq_false (hbefore _ hearlier)))
          (of_decide_eq_true hdue)

/-- Nothing more can happen at this moment. -/
structure Settled (r : Run) : Prop where
  queue : r.queue = []
  timers (timer : Timer) : r.now < r.timers.get timer
  waiting : ∀ answer ∈ r.waiting, r.now < answer.1
  commands : ∀ command ∈ r.commands, r.now < command.1

lemma Timer.mem_all (timer : Timer) : timer ∈ all := by cases timer <;> decide

lemma settled_of_move? (h : r.move? setting = none) : Settled r := by
  unfold Run.move? at h
  split at h
  · exact nomatch h
  · next hwaiting =>
    split at h
    · exact nomatch h
    · next hqueue =>
      split at h
      · exact nomatch h
      · next htimers =>
        have hcommands := Option.map_eq_none_iff.1 h
        refine ⟨hqueue, fun timer => ?_, fun answer hanswer => ?_, fun command hcommand => ?_⟩
        · simpa using List.find?_eq_none.1 htimers timer timer.mem_all
        · simpa using List.find?_eq_none.1 hwaiting answer hanswer
        · simpa using List.find?_eq_none.1 hcommands command hcommand

lemma Settled.idleUntil (h : Settled r) {later : Nat} (htimers : ∀ timer, later ≤ r.timers.get timer)
    (hwaiting : ∀ answer ∈ r.waiting, later ≤ answer.1) (hcommands : ∀ command ∈ r.commands, later ≤ command.1) :
    r.IdleUntil later := by
  refine ⟨fun job hjob => ?_, htimers, hwaiting, hcommands⟩
  rw [h.queue] at hjob
  exact nomatch hjob

/-- A schedule never gets stuck. -/
theorem exists_step (setting : Setting) (r : Run) : ∃ r', Step setting r r' := by
  cases h : r.move? setting with
  | some r' => exact ⟨r', .move (move_of_move? h)⟩
  | none =>
    have hsettled := settled_of_move? h
    exact ⟨_, .pass (Nat.lt_succ_self _) (hsettled.idleUntil hsettled.timers hsettled.waiting hsettled.commands)⟩

variable {commands : List (Nat × Command)}

/-- What can happen at this moment happens, until the moment is over or the user leaves. -/
lemma settleWithin_spec (hpositive : setting.periods.Positive) (n : Nat) (hr : Reachable setting commands r)
    (hload : r.load ≤ n) :
    Reachable setting commands (r.settleWithin setting n) ∧ (r.settleWithin setting n).now = r.now ∧
      ((r.settleWithin setting n).ended = true ∨ Settled (r.settleWithin setting n)) := by
  induction n generalizing r with
  | zero =>
    refine ⟨hr, rfl, Or.inr ?_⟩
    cases hmove : r.move? setting with
    | none => exact settled_of_move? hmove
    | some r' =>
      have hless := (load_of_move hpositive (move_of_move? hmove)).2
      omega
  | succ n ih =>
    unfold Run.settleWithin
    by_cases hended : r.ended = true
    · rw [if_pos hended]
      exact ⟨hr, rfl, Or.inl hended⟩
    · rw [if_neg hended]
      cases hmove : r.move? setting with
      | none => exact ⟨hr, rfl, Or.inr (settled_of_move? hmove)⟩
      | some r' =>
        have hstep := move_of_move? hmove
        obtain ⟨hnow, hless⟩ := load_of_move hpositive hstep
        rw [← hnow]
        exact ih (hr.step (Bool.eq_false_of_not_eq_true hended) (.move hstep)) (by omega)

lemma foldl_min_le (times : List Nat) (time : Nat) :
    times.foldl min time ≤ time ∧ ∀ other ∈ times, times.foldl min time ≤ other := by
  induction times generalizing time with
  | nil => exact ⟨le_rfl, fun _ h => nomatch h⟩
  | cons first times ih =>
    obtain ⟨hle, hall⟩ := ih (min time first)
    exact ⟨hle.trans (min_le_left _ _), List.forall_mem_cons.2 ⟨hle.trans (min_le_right _ _), hall⟩⟩

lemma lt_foldl_min {now time : Nat} {times : List Nat} (h : now < time) (hall : ∀ other ∈ times, now < other) :
    now < times.foldl min time := by
  induction times generalizing time with
  | nil => exact h
  | cons first times ih =>
    obtain ⟨hfirst, hall⟩ := List.forall_mem_cons.1 hall
    exact ih (lt_min h hfirst) hall

lemma Timers.next_le (t : Timers) (timer : Timer) : t.next ≤ t.get timer := by
  unfold Timers.next
  cases timer <;> simp only [PerTimer.get] <;> omega

lemma Timers.lt_next {t : Timers} {now : Nat} (h : ∀ timer, now < t.get timer) : now < t.next :=
  lt_min (lt_min (h .messages) (h .roster)) (lt_min (h .transfers) (h .liveness))

lemma Settled.lt_next (h : Settled r) : r.now < r.next :=
  lt_foldl_min (lt_foldl_min (Timers.lt_next h.timers) (List.forall_mem_map.2 h.waiting))
    (List.forall_mem_map.2 h.commands)

lemma Run.next_le (r : Run) (timer : Timer) : r.next ≤ r.timers.get timer :=
  (foldl_min_le _ _).1.trans ((foldl_min_le _ _).1.trans (r.timers.next_le timer))

lemma Settled.idleUntil_next (h : Settled r) : r.IdleUntil r.next := by
  refine h.idleUntil r.next_le (fun answer hanswer => ?_) fun command hcommand => ?_
  · exact (foldl_min_le _ _).1.trans ((foldl_min_le _ _).2 _ (List.mem_map_of_mem hanswer))
  · exact (foldl_min_le _ _).2 _ (List.mem_map_of_mem hcommand)

lemma go_spec (hpositive : setting.periods.Positive) (stop n : Nat) (hr : Reachable setting commands r)
    (hover : r.ended = true ∨ Settled r) (hnow : r.now ≤ stop - 1) (hfuel : stop ≤ r.now + n + 1) :
    Reachable setting commands (r.go setting stop n) ∧ (r.go setting stop n).now ≤ stop - 1 ∧
      ((r.go setting stop n).ended = true ∨ stop ≤ (r.go setting stop n).next) := by
  induction n generalizing r with
  | zero => exact ⟨hr, hnow, hover.imp_right fun h => hfuel.trans h.lt_next⟩
  | succ n ih =>
    unfold Run.go
    rcases hover with hended | hsettled
    · rw [if_pos (Or.inl hended)]
      exact ⟨hr, hnow, Or.inl hended⟩
    · have hlt := hsettled.lt_next
      split_ifs with hend
      · exact ⟨hr, hnow, hend.imp_right fun h => h.resolve_right (Nat.not_le.2 hlt)⟩
      · obtain ⟨hgoes, hbefore, -⟩ := not_or.1 hend |>.imp_right not_or.1
        have hended : r.ended = false := Bool.eq_false_of_not_eq_true hgoes
        have hpassed := hr.step hended (.pass hlt hsettled.idleUntil_next)
        obtain ⟨hreached, hsame, hover⟩ := settleWithin_spec hpositive _ hpassed le_rfl
        refine ih hreached hover ?_ ?_
        · show Run.now (Run.settleWithin _ _ _) ≤ _
          rw [hsame]
          show r.next ≤ stop - 1
          omega
        · show stop ≤ Run.now (Run.settleWithin _ _ _) + n + 1
          rw [hsame]
          show stop ≤ r.next + n + 1
          omega

/-- The fixed order is one of those in which things can happen, and stops right before the end. -/
theorem reachable_run (hpositive : setting.periods.Positive) (commands : List (Nat × Command)) (stop : Nat) :
    Reachable setting commands (run setting commands stop) ∧ (run setting commands stop).now ≤ stop - 1 ∧
      ((run setting commands stop).ended = true ∨ stop ≤ (run setting commands stop).next) := by
  have hopening : Reachable setting commands (.opening setting commands) := .opening
  have hstart : (Run.opening setting commands).now = 0 := (Run.begins_startAll _ openingRequests).now
  obtain ⟨hreached, hnow, hover⟩ := settleWithin_spec hpositive _ hopening le_rfl
  rw [hstart] at hnow
  exact go_spec hpositive stop stop hreached hover (hnow.trans_le (Nat.zero_le _)) (by omega)

end Order

end PeerChat.Schedule
