import PeerChat.Proofs.Schedule.Progress

/-!
The cadences of a schedule. Each timer stands at all times at the first multiple of its period at which it has not fired,
and time never goes on beyond that. So every poll comes at the multiples of its period and at no other time, whatever the
service answers or fails to answer, whatever the user does but leave, and in whatever order things happen that fall on
one moment.

* `clocked_of_begins_ticked`, `clocked_of_begins`, `clocked_of_passed`: what a firing timer, any other move and the time
  that passes have to do with the cadences;
* `steady_of_reachable`: in every schedule each thing that is polled has its own cadence;
* `times_run`: the polls of the fixed order up to its end.
-/

namespace PeerChat.Schedule

/-! ### Multiples -/

/-- The multiples of a period from the first on up to a time. -/
def multiples (period last : Nat) : List Nat := (List.range' 1 last).filter (period ∣ ·)

section Multiples

variable {period due : Nat}

lemma multiples_succ (period last : Nat) :
    multiples period (last + 1) = multiples period last ++ if period ∣ last + 1 then [last + 1] else [] := by
  unfold multiples
  rw [List.range'_1_concat, List.filter_append, Nat.add_comm 1]
  congr 1
  by_cases h : period ∣ last + 1 <;> simp [h]

/-- Between two multiples that follow one another there is none. -/
lemma multiples_eq {first last : Nat} (hdvd : period ∣ due) (hlt : last < due) (hle : first ≤ last)
    (hnear : due ≤ first + period) : multiples period last = multiples period first := by
  induction last, hle using Nat.le_induction with
  | base => rfl
  | succ last hle ih =>
    have hnot : ¬period ∣ last + 1 := fun h => by
      have hsub := Nat.le_of_dvd (by omega) ((Nat.dvd_sub hdvd h))
      omega
    rw [multiples_succ, if_neg hnot, List.append_nil]
    exact ih (by omega)

lemma multiples_add (hperiod : 0 < period) (hdvd : period ∣ due) (hdue : 0 < due) :
    multiples period (due + period - 1) = multiples period (due - 1) ++ [due] := by
  obtain ⟨before, rfl⟩ := Nat.exists_eq_add_one_of_ne_zero hdue.ne'
  rw [multiples_eq (Nat.dvd_add_self_right.2 hdvd) (by omega : before + 1 + period - 1 < before + 1 + period)
    (by omega : before + 1 ≤ _) le_rfl, multiples_succ, if_pos hdvd, Nat.add_sub_cancel]

end Multiples

/-! ### Polls and timers -/

/-- The timer that makes a poll. -/
def Timer.of : Request → Timer
  | .fetch .messages _ => messages
  | .fetch .roster _ | .fetch .blockList _ => roster
  | .fetch .transfers _ => transfers
  | .probe | .sendText _ _ | .sendFile _ _ | .respond _ => liveness

lemma Timer.filter_isPoll_requests (timer : Timer) : timer.requests.filter Request.isPoll = timer.requests := by
  cases timer <;> rfl

/-- What is started when timers fire at these times. -/
def batches (fired : List (Nat × Timer)) : List (Nat × Request) :=
  fired.flatMap fun (time, timer) => timer.requests.map (time, ·)

lemma filter_batch {request : Request} (h : request.isPoll = true) (time : Nat) (timer : Timer) :
    ((timer.requests.map (time, ·)).filter (·.2 = request)).map (·.1) =
      if timer = Timer.of request then [time] else [] := by
  cases request with
  | fetch resource forced =>
    cases forced with
    | true => exact nomatch h
    | false => cases resource <;> cases timer <;> rfl
  | probe => cases timer <;> rfl
  | sendText | sendFile | respond => exact nomatch h

lemma times_batches {request : Request} (h : request.isPoll = true) (fired : List (Nat × Timer)) :
    ((batches fired).filter (·.2 = request)).map (·.1) = (fired.filter (·.2 = Timer.of request)).map (·.1) := by
  induction fired with
  | nil => rfl
  | cons tick fired ih =>
    show ((tick.2.requests.map (tick.1, ·) ++ batches fired).filter (·.2 = request)).map (·.1) = _
    rw [List.filter_append, List.map_append, filter_batch h, ih, List.filter_cons]
    by_cases heq : tick.2 = Timer.of request <;> simp [heq]

/-! ### The clock -/

/-- At these times the timers have fired: each at the multiples of its period, up to the one for which it is set. -/
structure Clocked (p : Periods) (r : Run) (fired : List (Nat × Timer)) : Prop where
  polls : r.polls = (0, .probe) :: batches fired
  sorted : (fired.map (·.1)).Pairwise (· ≤ ·)
  past : ∀ time ∈ fired.map (·.1), time ≤ r.now
  cadence (timer : Timer) :
    (fired.filter (·.2 = timer)).map (·.1) = multiples (p.get timer) (r.timers.get timer - 1)
  pos (timer : Timer) : 0 < r.timers.get timer
  dvd (timer : Timer) : p.get timer ∣ r.timers.get timer
  /-- No timer is late, -/
  punctual (timer : Timer) : r.now ≤ r.timers.get timer
  /-- and none is set for later than a period from now. -/
  near (timer : Timer) : r.timers.get timer ≤ r.now + p.get timer

section Clocked

variable {p : Periods} {r r' : Run} {fired : List (Nat × Timer)}

lemma Run.Begins.polls_eq {new : List Request} (h : r.Begins new r') :
    r'.polls = r.polls ++ (new.filter Request.isPoll).map (r.now, ·) := by
  unfold Run.polls
  rw [h.starts, List.filter_append, List.filter_map]
  rfl

/-- A timer that fires was set for now, and is set for the next multiple. -/
lemma clocked_of_begins_ticked (hpositive : p.Positive) (h : Clocked p r fired) {timer : Timer}
    (hdue : r.timers.get timer ≤ r.now)
    (hbegins : Run.Begins { r with timers := r.timers.set timer (r.now + p.get timer) } timer.requests r') :
    Clocked p r' (fired ++ [(r.now, timer)]) := by
  have hnow : r.timers.get timer = r.now := Nat.le_antisymm hdue (h.punctual timer)
  have hset (other : Timer) : r'.timers.get other =
      if other = timer then r.now + p.get timer else r.timers.get other := by
    rw [hbegins.timers]
    split
    · next heq => rw [heq, PerTimer.get_set_self]
    · next hne => exact PerTimer.get_set_of_ne _ _ hne
  have hpos := hpositive.get timer
  -- the timer that fires adds its own multiple, and those of the others stay what they were
  constructor
  · rw [hbegins.polls_eq, timer.filter_isPoll_requests]
    show r.polls ++ _ = _
    rw [h.polls]
    unfold batches
    rw [List.flatMap_append, List.flatMap_singleton, List.cons_append]
  · rw [List.map_append, List.pairwise_append]
    refine ⟨h.sorted, List.pairwise_singleton _ _, fun time htime now hnow => ?_⟩
    rw [List.mem_singleton.1 hnow]
    exact h.past time htime
  · intro time htime
    rw [hbegins.now]
    rw [List.map_append] at htime
    rcases List.mem_append.1 htime with htime | htime
    · exact h.past time htime
    · exact (List.mem_singleton.1 htime).le
  · intro other
    rw [hset, List.filter_append, List.map_append, h.cadence]
    by_cases heq : other = timer
    · subst heq
      have hnowPos : 0 < r.now := hnow ▸ h.pos other
      have hdvd : p.get other ∣ r.now := hnow ▸ h.dvd other
      rw [if_pos rfl, multiples_add hpos hdvd hnowPos, hnow]
      simp
    · rw [if_neg heq]
      simp [Ne.symm heq]
  · intro other
    rw [hset]
    split
    · omega
    · exact h.pos other
  · intro other
    rw [hset]
    split
    · next heq =>
      rw [heq, ← hnow]
      exact Nat.dvd_add_self_right.2 (h.dvd timer)
    · exact h.dvd other
  · intro other
    rw [hset, hbegins.now]
    show r.now ≤ _
    split
    · omega
    · exact h.punctual other
  · intro other
    rw [hset, hbegins.now]
    show _ ≤ r.now + _
    split
    · next heq => rw [heq]
    · exact h.near other

lemma clocked_of_begins (h : Clocked p r fired) {new : List Request} (hbegins : r.Begins new r')
    (hpolls : new.filter Request.isPoll = []) : Clocked p r' fired := by
  obtain ⟨polls, sorted, past, cadence, pos, dvd, punctual, near⟩ := h
  rw [← hbegins.now] at past punctual near
  rw [← hbegins.timers] at cadence pos dvd punctual near
  refine ⟨?_, sorted, past, cadence, pos, dvd, punctual, near⟩
  rw [hbegins.polls_eq, hpolls, polls]
  exact List.append_nil _

/-- Time goes on no further than up to the next timer. -/
lemma clocked_of_passed (h : Clocked p r fired) {later : Nat} (hlt : r.now < later)
    (hidle : ∀ timer, later ≤ r.timers.get timer) : Clocked p { r with now := later } fired :=
  { h with
    past := fun time htime => (h.past time htime).trans hlt.le
    punctual := hidle
    near := fun timer => (h.near timer).trans (Nat.add_le_add_right hlt.le _) }

end Clocked

/-! ### Invariant -/

/-- Up to now every poll came on time, and the schedule goes on. -/
structure OnTime (p : Periods) (r : Run) : Prop where
  opening : openingRequests.map (0, ·) <+: r.starts
  clocked : ∃ fired, Clocked p r fired
  numbered : r.Numbered
  /-- The user does not leave. -/
  stays : ∀ command ∈ r.commands, command.2 ≠ .shutdown
  ended : r.ended = false

variable {setting : Setting} {commands : List (Nat × Command)} {r r' : Run}

lemma numbered_initial (setting : Setting) (commands : List (Nat × Command)) :
    (Run.initial setting commands).Numbered where
  last resource := by cases resource <;> rfl
  numbers resource := by cases resource <;> rfl
  awaited resource := by cases resource <;> exact List.nil_subperm
  taken resource seq h := by cases resource <;> exact nomatch h

lemma onTime_opening (hpositive : setting.periods.Positive) (hstays : ∀ command ∈ commands, command.2 ≠ .shutdown) :
    OnTime setting.periods (.opening setting commands) := by
  have hbegins : (Run.initial setting commands).Begins openingRequests (.opening setting commands) :=
    Run.begins_startAll _ openingRequests
  refine ⟨?_, ⟨[], ?_⟩, hbegins.numbered (numbered_initial setting commands),
    fun command hcommand => hstays command (hbegins.commands hcommand), hbegins.ended⟩
  · rw [hbegins.starts]
    exact List.prefix_refl _
  · have hset (timer : Timer) : (Run.opening setting commands).timers.get timer = setting.periods.get timer :=
      congrArg (·.get timer) hbegins.timers
    have hnow : (Run.opening setting commands).now = 0 := hbegins.now
    constructor
    · rw [hbegins.polls_eq]
      rfl
    · exact List.Pairwise.nil
    · exact fun _ h => nomatch h
    · intro timer
      have hpos := hpositive.get timer
      rw [hset, multiples_eq (Nat.dvd_refl _) (by omega) (Nat.zero_le _) (Nat.zero_add _).ge]
      rfl
    · intro timer
      rw [hset]
      exact hpositive.get timer
    · exact fun timer => (hset timer).symm ▸ Nat.dvd_refl _
    · intro timer
      rw [hnow]
      exact Nat.zero_le _
    · intro timer
      rw [hset, hnow, Nat.zero_add]

lemma onTime_of_begins {p : Periods} {new : List Request} (hbegins : r.Begins new r')
    (hopening : openingRequests.map (0, ·) <+: r.starts) (hnumbered : r.Numbered)
    (hstays : ∀ command ∈ r.commands, command.2 ≠ .shutdown) (hended : r.ended = false)
    (hclocked : ∃ fired, Clocked p r' fired) : OnTime p r' where
  opening := by
    rw [hbegins.starts]
    exact hopening.trans (List.prefix_append _ _)
  clocked := hclocked
  numbered := hbegins.numbered hnumbered
  stays command hcommand := hstays command (hbegins.commands hcommand)
  ended := hbegins.ended.trans hended

/-- **One step keeps all polls on time**, whatever it is. -/
theorem onTime_of_step (hpositive : setting.periods.Positive) (h : OnTime setting.periods r)
    (hstep : Step setting r r') : OnTime setting.periods r' := by
  obtain ⟨hopening, ⟨fired, hclocked⟩, hnumbered, hstays, hended⟩ := h
  cases hstep with
  | move hmove =>
    cases Run.change_of_move hmove hended hstays with
    | fired timer due begins =>
      exact onTime_of_begins begins hopening ⟨hnumbered.last, hnumbered.numbers, hnumbered.awaited, hnumbered.taken⟩
        hstays hended ⟨_, clocked_of_begins_ticked hpositive hclocked due begins⟩
    | other begins polls =>
      exact onTime_of_begins begins hopening hnumbered hstays hended ⟨_, clocked_of_begins hclocked begins polls⟩
  | pass lt idle =>
    exact ⟨hopening, ⟨_, clocked_of_passed hclocked lt idle.timers⟩,
      ⟨hnumbered.last, hnumbered.numbers, hnumbered.awaited, hnumbered.taken⟩, hstays, hended⟩

theorem onTime_of_reachable (hpositive : setting.periods.Positive)
    (hstays : ∀ command ∈ commands, command.2 ≠ .shutdown) (h : Reachable setting commands r) :
    OnTime setting.periods r := by
  induction h with
  | opening => exact onTime_opening hpositive hstays
  | step _ _ hstep ih => exact onTime_of_step hpositive ih hstep

/-! ### Cadences -/

def Run.times (r : Run) (request : Request) : List Nat := (r.starts.filter (·.2 = request)).map (·.1)

/-- The time up to which a timer has fired whenever it was to: now, unless it is still to fire now. -/
def Run.firedUpTo (r : Run) (timer : Timer) : Nat := if r.timers.get timer ≤ r.now then r.now - 1 else r.now

section Clocked

variable {p : Periods} {fired : List (Nat × Timer)}

lemma Clocked.multiples_firedUpTo (h : Clocked p r fired) (timer : Timer) :
    multiples (p.get timer) (r.timers.get timer - 1) = multiples (p.get timer) (r.firedUpTo timer) := by
  have hpos := h.pos timer
  have hpunctual := h.punctual timer
  unfold Run.firedUpTo
  split
  · next hdue => rw [Nat.le_antisymm hdue hpunctual]
  · next hdue => exact multiples_eq (h.dvd timer) (by omega) (by omega) (h.near timer)

lemma Clocked.times (h : Clocked p r fired) {request : Request} (hpoll : request.isPoll = true) :
    r.times request =
      (if request = .probe then [0] else []) ++ multiples (p.get (.of request)) (r.timers.get (.of request) - 1) := by
  have hpolls : r.starts.filter (·.2 = request) = r.polls.filter (·.2 = request) := by
    unfold Run.polls
    rw [List.filter_filter]
    refine List.filter_congr fun start _ => ?_
    by_cases heq : start.2 = request
    · simp [heq, hpoll]
    · simp [heq]
  unfold Run.times
  rw [hpolls, h.polls, ← h.cadence, ← times_batches hpoll, List.filter_cons]
  by_cases hprobe : request = .probe
  · simp [hprobe]
  · simp [hprobe, Ne.symm hprobe]

end Clocked

/-- How a schedule polls. -/
structure Steady (setting : Setting) (r : Run) : Prop where
  /-- It begins with a look at everything by force and with a probe. -/
  opening : openingRequests.map (0, ·) <+: r.starts
  /-- From then on its polls are those of timers that fire, each at the multiples of its period and at no other time.
  The order of those that fall on one moment is left open, but what one timer asks for is started together. -/
  polls : ∃ fired : List (Nat × Timer), r.polls = (0, .probe) :: batches fired ∧
    (fired.map (·.1)).Pairwise (· ≤ ·) ∧
      ∀ timer, (fired.filter (·.2 = timer)).map (·.1) = multiples (setting.periods.get timer) (r.firedUpTo timer)
  /-- So each poll comes at the multiples of its period, and at no other time. -/
  cadence (request : Request) : request.isPoll = true →
    r.times request = (if request = .probe then [0] else []) ++
      multiples (setting.periods.get (.of request)) (r.firedUpTo (.of request))
  /-- The fetches of each resource bear the numbers from one on, by force or not, -/
  numbers (resource : Resource) : (r.numbers resource).length < UInt64.size →
    (r.numbers resource).map UInt64.toNat = List.range' 1 (r.numbers resource).length
  /-- which go round after 64 bits, and answers bear the numbers of their fetches. -/
  numbered : r.Numbered
  /-- The schedule can go on, -/
  onward : r.ended = false ∧ ∃ r', Step setting r r'
  /-- and does not stay before any time for ever. -/
  leaves (stop : Nat) : Acc (fun r' r : Run => Step setting r r' ∧ r'.now ≤ stop) r

lemma Run.Numbered.map_toNat {resource : Resource} (h : r.Numbered)
    (hlength : (r.numbers resource).length < UInt64.size) :
    (r.numbers resource).map UInt64.toNat = List.range' 1 (r.numbers resource).length := by
  rw [h.numbers resource, List.map_map, List.length_map, List.length_range']
  refine (List.map_congr_left fun seq hseq => ?_).trans (List.map_id _)
  have hle := (List.mem_range'_1.1 hseq).2
  exact UInt64.toNat_ofNat_of_lt (by omega)

/-- **Nothing disturbs the cadences.** Whatever the service answers, late or never, whatever the user does but leave, and
in whatever order things happen at one moment, each thing is polled at the multiples of its period, and the fetches of
each resource bear the numbers from one on. -/
theorem steady_of_reachable (hpositive : setting.periods.Positive)
    (hstays : ∀ command ∈ commands, command.2 ≠ .shutdown) (h : Reachable setting commands r) : Steady setting r := by
  obtain ⟨hopening, ⟨fired, hclocked⟩, hnumbered, -, hended⟩ := onTime_of_reachable hpositive hstays h
  constructor
  · exact hopening
  · exact ⟨fired, hclocked.polls, hclocked.sorted, fun timer =>
      (hclocked.cadence timer).trans (hclocked.multiples_firedUpTo timer)⟩
  · intro request hpoll
    rw [hclocked.times hpoll, hclocked.multiples_firedUpTo]
  · exact fun resource hlength => hnumbered.map_toNat hlength
  · exact hnumbered
  · exact ⟨hended, exists_step setting r⟩
  · exact fun stop => (wellFounded_step hpositive stop).apply r

/-- A service that answers the first look at the messages late and the others never, that nobody can read the roster of,
and that cannot be reached at first. Its return and a change of the block list fall on one moment, at which the roster
is fetched twice by force. -/
theorem steady_of_bad_service :
    ∃ (setting : Setting) (commands : List (Nat × Command)) (r : Run), setting.periods.Positive ∧
      (∀ command ∈ commands, command.2 ≠ .shutdown) ∧ Reachable setting commands r ∧ r.now = 10 ∧
      r.times (.fetch .roster true) = [0, 5, 5] ∧ Steady setting r := by
  let service : Service :=
    { Service.silent with
      messages := fun nth _ => if nth = 0 then some (7, .ok []) else none
      roster := fun _ _ => some (0, .error (.malformed "/users" "unexpected shape"))
      probe := fun nth _ => some (0, if nth = 0 then .error (.status "/ping" 503) else .ok ())
      sendText := fun _ _ _ => some (1, .ok ()) }
  let setting : Setting := ⟨⟨2, 3, 4, 5⟩, 10, service, Disk.ofEntries []⟩
  let commands : List (Nat × Command) := [(4, .setBlocked ⟨"bob", true⟩)]
  have hpositive : setting.periods.Positive := ⟨by decide, by decide, by decide, by decide⟩
  have hstays : ∀ command ∈ commands, command.2 ≠ .shutdown := by decide
  have hreachable := (reachable_run hpositive commands 11).1
  exact ⟨setting, commands, run setting commands 11, hpositive, hstays, hreachable, by decide +kernel,
    by decide +kernel, steady_of_reachable hpositive hstays hreachable⟩

/-- In the fixed order, everything is polled at the multiples of its period before the end. -/
theorem times_run (hpositive : setting.periods.Positive) (hstays : ∀ command ∈ commands, command.2 ≠ .shutdown)
    (stop : Nat) {request : Request} (hpoll : request.isPoll = true) :
    (run setting commands stop).times request =
      (if request = .probe then [0] else []) ++ multiples (setting.periods.get (.of request)) (stop - 1) := by
  obtain ⟨hreachable, hnow, hover⟩ := reachable_run hpositive commands stop
  obtain ⟨-, ⟨fired, hclocked⟩, -, -, hended⟩ := onTime_of_reachable hpositive hstays hreachable
  have hnext : stop ≤ (run setting commands stop).next := hover.resolve_left (by simp [hended])
  have hafter := hnext.trans ((run setting commands stop).next_le (.of request))
  have hpos := hclocked.pos (.of request)
  have hnear := (hclocked.near (.of request)).trans (Nat.add_le_add_right hnow _)
  rw [hclocked.times hpoll, multiples_eq (hclocked.dvd _) (by omega) (by omega : stop - 1 ≤ _) hnear]

end PeerChat.Schedule
