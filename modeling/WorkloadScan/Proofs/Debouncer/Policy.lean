import WorkloadScan.Proofs.Debouncer.Log

/-! The policy of the two timers in closed form: when the changes of a sequence are flushed if the
timer always fires in time, and in which batches. -/
namespace WorkloadScan.Debouncer
open Table (ofList)

structure Arrival where
  time : Instant
  change : Resource.Key × Resource.Revision

structure Take where
  time : Instant
  discarded : Bool
  batch : Batch

/-! ### Runs in which the timer fires in time -/

/-- The timer fires just when the deadline comes, before any change of that instant. The run goes
on from the instant `clock` to the instant `next` of a change after it, if there is one. -/
def IsPrompt (c : Config) (next : Option Instant) :
    Instant → Debouncer → List (Instant × Event) → Prop
  | clock, d, [] => (∀ t ∈ next, clock ≤ t) ∧ ∀ due ∈ d.deadline, ∃ t ∈ next, t < due
  | clock, d, (now,.add key revision)::rest =>
    clock ≤ now ∧ (∀ due ∈ d.deadline, now < due) ∧
      IsPrompt c next now (d.add c now key revision) rest
  | clock, d, (now,.poll)::rest =>
    clock ≤ now ∧ d.deadline = some now ∧ IsPrompt c next now (d.poll c now).1 rest
  | _, _, (_,.takeRest)::_ => False

instance decidableIsPrompt (c : Config) (next : Option Instant) :
    (clock : Instant) → (d : Debouncer) → (events : List (Instant × Event)) →
      Decidable (IsPrompt c next clock d events)
  | clock, d, [] =>
    inferInstanceAs (Decidable ((∀ t ∈ next, clock ≤ t) ∧ ∀ due ∈ d.deadline, ∃ t ∈ next, t < due))
  | clock, d, (now,.add key revision)::rest =>
    have := decidableIsPrompt c next now (d.add c now key revision) rest
    inferInstanceAs (Decidable (clock ≤ now ∧ (∀ due ∈ d.deadline, now < due) ∧ _))
  | clock, d, (now,.poll)::rest =>
    have := decidableIsPrompt c next now (d.poll c now).1 rest
    inferInstanceAs (Decidable (clock ≤ now ∧ d.deadline = some now ∧ _))
  | _, _, (_,.takeRest)::_ => inferInstanceAs (Decidable False)

def arrival? : Instant × Event → Option Arrival
  | (now,.add key revision) => some ⟨now,(key,revision)⟩
  | (_,.poll) | (_,.takeRest) => none

def take? : Instant × Outcome → Option Take
  | (now,.polled (.discarded batch)) => some ⟨now,true,batch⟩
  | (now,.polled (.ready batch)) => some ⟨now,false,batch⟩
  | _ => none

def takes (entries : List (Instant × Outcome)) : List Take := entries.filterMap take?

/-! ### The policy -/

def upcoming (next : Option Instant) (rest : List Arrival) : Option Instant :=
  (rest.head?.map Arrival.time).or next

/-- The end of the first quiet period. -/
def quietEnd (quiet : Nat) (next : Option Instant) : List Arrival → Option Instant
  | [] => none
  | a::rest =>
    if (upcoming next rest).all (a.time + quiet ≤ ·) then some (a.time + quiet)
    else quietEnd quiet next rest

/-- When the changes are taken whose quiet period ends at `quiet`: at once if they are discarded or
nothing has been flushed yet, else not before the spacing from the last flush is over. -/
def takeTime (c : Config) (first : Bool) (last : Option Instant) (quiet : Instant) : Instant :=
  if first && c.discardFirst then quiet
  else
    match last with
    | none => quiet
    | some last => max quiet (last + c.spacing)

/-- The takes that are due before the instant `next`. -/
def takesFrom (c : Config) (next : Option Instant) (first : Bool) (last : Option Instant) :
    List Arrival → List Take
  | [] => []
  | a::rest =>
    match quietEnd c.quiet next (a::rest) with
    | none => []
    | some quiet =>
      let time := takeTime c first last quiet
      if next.all (time ≤ ·) then
        { time, discarded := first && c.discardFirst,
          batch := ofList ((a :: rest.takeWhile (·.time < time)).map Arrival.change) } ::
          takesFrom c next false (if first && c.discardFirst then last else some time)
            (rest.dropWhile (·.time < time))
      else []
termination_by adds => adds.length
decreasing_by
  exact Nat.lt_succ_of_le (List.dropWhile_sublist _).length_le

/-! ### The states of a prompt run -/

variable {c : Config} {next : Option Instant} {first : Bool} {last : Option Instant}

def idle (first : Bool) (last : Option Instant) : Debouncer := { first, lastFlush := last }

/-- Changes wait for the end of their quiet period. -/
def settling (changes : List (Resource.Key × Resource.Revision)) (due : Instant) (first : Bool)
    (last : Option Instant) : Debouncer :=
  { pending := ofList changes, deadline := some due, first, lastFlush := last }

/-- Changes wait for the end of the spacing. -/
def spaced (changes : List (Resource.Key × Resource.Revision)) (due last : Instant) : Debouncer :=
  { pending := ofList changes, deadline := some due, rateLimited := true, first := false,
    lastFlush := some last }

theorem idle_add (c : Config) (now : Instant) (key : Resource.Key) (revision : Resource.Revision) :
    (idle first last).add c now key revision =
      settling [(key,revision)] (now + c.quiet) first last := rfl

theorem settling_add (c : Config) (changes : List (Resource.Key × Resource.Revision))
    (due now : Instant) (key : Resource.Key) (revision : Resource.Revision) :
    (settling changes due first last).add c now key revision =
      settling (changes ++ [(key,revision)]) (now + c.quiet) first last := by
  simp [settling, add]

theorem spaced_add (c : Config) (changes : List (Resource.Key × Resource.Revision))
    (due l now : Instant) (key : Resource.Key) (revision : Resource.Revision) :
    (spaced changes due l).add c now key revision =
      spaced (changes ++ [(key,revision)]) due l := by
  simp [spaced, add]

variable {changes : List (Resource.Key × Resource.Revision)}

theorem poll_at_deadline {d : Debouncer} {t : Instant} (hdeadline : d.deadline = some t)
    (hne : d.pending.isEmpty = false) : d.poll c t = due c t d := by
  have hlate : d.isEarly t = false := by simp [isEarly, hdeadline]
  simp [poll, hlate, hne]

theorem isEmpty_ofList_of_ne_nil (hne : changes ≠ []) : (ofList changes).isEmpty = false := by
  rw [Table.isEmpty_ofList]
  simpa using hne

theorem settling_poll_discard {t : Instant} (hne : changes ≠ [])
    (hdiscard : (first && c.discardFirst) = true) :
    (settling changes t first last).poll c t = (idle false last, .discarded (ofList changes)) := by
  rw [poll_at_deadline rfl (isEmpty_ofList_of_ne_nil hne)]
  simp [settling, due, hdiscard, idle, emptied]

theorem settling_poll_ready {t : Nat} (hne : changes ≠ [])
    (hkept : (first && c.discardFirst) = false) (hover : ∀ l : Nat, last = some l → l + c.spacing ≤ t) :
    (settling changes t first last).poll c t =
      (idle false (some t), .ready (ofList changes)) := by
  have hremaining : (settling changes t first last).remaining c t = 0 := by
    cases last with
    | none => rfl
    | some l =>
      have hl := hover l rfl
      rw [remaining_of_lastFlush rfl]
      omega
  rw [poll_at_deadline rfl (isEmpty_ofList_of_ne_nil hne), due, hremaining]
  simp [settling, hkept, idle, emptied]

theorem settling_poll_postponed {t l : Nat} (hne : changes ≠ [])
    (hkept : (first && c.discardFirst) = false) (hle : l ≤ t) (hwait : t < l + c.spacing) :
    (settling changes t first (some l)).poll c t =
      (spaced changes (l + c.spacing) l,
        .postponed (l + c.spacing - t) (ofList changes).size) := by
  have hremaining : (settling changes t first (some l)).remaining c t = l + c.spacing - t := by
    rw [remaining_of_lastFlush rfl]
    omega
  have hpos : 0 < l + c.spacing - t := by omega
  have hend : t + (l + c.spacing - t) = l + c.spacing := by omega
  rw [poll_at_deadline rfl (isEmpty_ofList_of_ne_nil hne), due, hremaining]
  simp [settling, hkept, hpos, hend, spaced]

theorem spaced_poll {l : Nat} (hne : changes ≠ []) :
    (spaced changes (l + c.spacing) l).poll c (l + c.spacing) =
      (idle false (some (l + c.spacing)), .ready (ofList changes)) := by
  have hremaining : (spaced changes (l + c.spacing) l).remaining c (l + c.spacing) = 0 := by
    rw [remaining_of_lastFlush rfl]
    omega
  rw [poll_at_deadline rfl (isEmpty_ofList_of_ne_nil hne), due, hremaining]
  simp [spaced, idle, emptied]

/-! ### Prompt runs make the takes of the policy -/

/-- A prompt run with these changes makes these takes. -/
def Makes (c : Config) (next : Option Instant) (clock : Instant) (d : Debouncer)
    (adds : List Arrival) (made : List Take) : Prop :=
  ∃ events, IsPrompt c next clock d events ∧ events.filterMap arrival? = adds ∧
    takes (log c d events) = made

variable {clock : Instant} {d : Debouncer} {adds : List Arrival} {made : List Take}

theorem Makes.rest (hnext : ∀ t ∈ next, clock ≤ t)
    (hdeadline : ∀ due ∈ d.deadline, ∃ t ∈ next, t < due) : Makes c next clock d [] [] :=
  ⟨[], ⟨hnext, hdeadline⟩, rfl, rfl⟩

theorem Makes.add {a : Arrival} (hclock : clock ≤ a.time)
    (hdeadline : ∀ due ∈ d.deadline, a.time < due)
    (h : Makes c next a.time (d.add c a.time a.change.1 a.change.2) adds made) :
    Makes c next clock d (a::adds) made := by
  obtain ⟨events, hprompt, rfl, rfl⟩ := h
  refine ⟨(a.time,.add a.change.1 a.change.2)::events, ⟨hclock, hdeadline, hprompt⟩, ?_, ?_⟩
  · simp [arrival?]
  · simp only [log, takes, apply]
    exact List.filterMap_cons_none rfl

theorem Makes.poll {t : Instant} {p : Poll} {after : Debouncer} (hclock : clock ≤ t)
    (hdeadline : d.deadline = some t) (hpoll : d.poll c t = (after,p))
    (h : Makes c next t after adds made) :
    Makes c next clock d adds ((take? (t,.polled p)).toList ++ made) := by
  obtain ⟨events, hprompt, rfl, rfl⟩ := h
  refine ⟨(t,.poll)::events, ⟨hclock, hdeadline, by rwa [hpoll]⟩, ?_, ?_⟩
  · exact List.filterMap_cons_none rfl
  · cases ht : take? (t,.polled p) <;> simp [log, takes, apply, hpoll, ht]

/-- The instants from `clock` over the changes up to `next` never go back. -/
def InOrder (next : Option Instant) (clock : Instant) (adds : List Arrival) : Prop :=
  (clock :: (adds.map Arrival.time ++ next.toList)).Pairwise (· ≤ ·)

theorem InOrder.tail {a : Arrival} (h : InOrder next clock (a::adds)) :
    InOrder next a.time adds := (List.pairwise_cons.mp h).2

theorem InOrder.head_le {a : Arrival} (h : InOrder next clock (a::adds)) : clock ≤ a.time :=
  (List.pairwise_cons.mp h).1 _ (by simp)

theorem InOrder.le_next {t : Instant} (h : InOrder next clock adds) (ht : t ∈ next) :
    clock ≤ t :=
  (List.pairwise_cons.mp h).1 _ (by simp [Option.mem_def.mp ht])

theorem InOrder.of_upcoming {t : Instant} (h : InOrder next clock adds)
    (ht : ∀ u ∈ upcoming next adds, t ≤ u) : InOrder next t adds := by
  refine List.pairwise_cons.mpr ⟨?_, (List.pairwise_cons.mp h).2⟩
  intro u hu
  cases adds with
  | nil => exact ht u (by simpa [upcoming] using hu)
  | cons a rest =>
    have ha : t ≤ a.time := ht a.time (by simp [upcoming])
    rcases List.mem_cons.mp hu with rfl | hu
    · exact ha
    · exact Nat.le_trans ha ((List.pairwise_cons.mp h.tail).1 u hu)

theorem InOrder.all_next {t : Instant} (h : InOrder next t adds) :
    next.all (t ≤ ·) = true := by
  rw [Option.all_eq_true]
  exact fun u hu => decide_eq_true (h.le_next hu)

/-- What is taken at an instant, with the takes after it. -/
def takesAt (c : Config) (next : Option Instant) (discarded : Bool) (last : Option Instant)
    (changes : List (Resource.Key × Resource.Revision)) (time : Instant) (rest : List Arrival) :
    List Take :=
  if next.all (time ≤ ·) then
    { time, discarded,
      batch := ofList (changes ++ (rest.takeWhile fun b => b.time < time).map Arrival.change) } ::
      takesFrom c next false last (rest.dropWhile fun b => b.time < time)
  else []

theorem takesAt_of_inOrder {time : Nat} {discarded : Bool} (h : InOrder next time adds) :
    takesAt c next discarded last changes time adds =
      { time, discarded, batch := ofList changes } :: takesFrom c next false last adds := by
  rw [takesAt, if_pos h.all_next]
  cases adds with
  | nil => simp
  | cons a rest =>
    have ha : ¬a.time < time := Nat.not_lt.mpr h.head_le
    simp [ha]

theorem takesAt_cons {time : Nat} {discarded : Bool} {a : Arrival} (h : a.time < time) :
    takesAt c next discarded last changes time (a::adds) =
      takesAt c next discarded last (changes ++ [a.change]) time adds := by
  simp [takesAt, h]

theorem le_takeTime (c : Config) (first : Bool) (last : Option Instant) (quiet : Instant) :
    quiet ≤ takeTime c first last quiet := by
  unfold takeTime
  split
  · exact Nat.le_refl _
  · cases last with
    | none => exact Nat.le_refl _
    | some l => exact Nat.le_max_left _ _

theorem lt_quietEnd {a : Arrival} {quiet : Nat} {t : Instant} (hquiet : 0 < quiet)
    (horder : InOrder next a.time adds) (h : quietEnd quiet next (a::adds) = some t) :
    a.time < t := by
  induction adds generalizing a with
  | nil =>
    simp only [quietEnd] at h
    split at h
    · rw [← Option.some.inj h]
      exact Nat.lt_add_of_pos_right hquiet
    · cases h
  | cons b rest ih =>
    rw [quietEnd] at h
    split at h
    · rw [← Option.some.inj h]
      exact Nat.lt_add_of_pos_right hquiet
    · exact Nat.lt_of_le_of_lt horder.head_le (ih horder.tail h)

/-- From an idle debouncer on, prompt runs make the takes of the policy. -/
def FollowsPolicy (c : Config) (next : Option Instant) (adds : List Arrival) : Prop :=
  ∀ clock first last, InOrder next clock adds → (∀ l ∈ last, l ≤ clock) →
    Makes c next clock (idle first last) adds (takesFrom c next first last adds)

theorem Makes.rest_of_early {due : Instant} (hdeadline : d.deadline = some due)
    (horder : InOrder next clock []) (h : ¬∀ u ∈ next, due ≤ u) :
    Makes c next clock d [] [] := by
  refine Makes.rest (fun t => horder.le_next) ?_
  intro t ht
  rw [hdeadline, Option.mem_some_iff] at ht
  subst ht
  push Not at h
  exact h

theorem makes_spaced {l : Nat} (hne : changes ≠ []) (hclock : clock ≤ l + c.spacing)
    (horder : InOrder next clock adds)
    (ih : ∀ rest : List Arrival, rest.length ≤ adds.length → FollowsPolicy c next rest) :
    Makes c next clock (spaced changes (l + c.spacing) l) adds
      (takesAt c next false (some (l + c.spacing)) changes (l + c.spacing) adds) := by
  have hdue {clock : Instant} {rest : List Arrival} {changes} (hne : changes ≠ [])
      (hclock : clock ≤ l + c.spacing) (horder : InOrder next (l + c.spacing) rest)
      (hpolicy : FollowsPolicy c next rest) :
      Makes c next clock (spaced changes (l + c.spacing) l) rest
        (takesAt c next false (some (l + c.spacing)) changes (l + c.spacing) rest) := by
    rw [takesAt_of_inOrder horder]
    exact Makes.poll hclock rfl (spaced_poll hne) (hpolicy _ _ _ horder (by simp))
  induction adds generalizing clock changes with
  | nil =>
    by_cases hnext : ∀ u ∈ next, l + c.spacing ≤ u
    · exact hdue hne hclock (horder.of_upcoming hnext) (ih [] (Nat.le_refl _))
    · have hnone : next.all (l + c.spacing ≤ ·) = false := by
        simpa [Option.all_eq_false] using hnext
      rw [takesAt, hnone]
      exact Makes.rest_of_early rfl horder hnext
  | cons a rest hrest =>
    by_cases ha : a.time < l + c.spacing
    · rw [takesAt_cons ha]
      refine Makes.add horder.head_le (by simpa [spaced] using ha) ?_
      rw [spaced_add]
      exact hrest (by simp) (Nat.le_of_lt ha) horder.tail
        fun rest' h => ih rest' (Nat.le_succ_of_le h)
    · have hlater : ∀ u ∈ upcoming next (a::rest), l + c.spacing ≤ u := by
        simpa [upcoming] using ha
      exact hdue hne hclock (horder.of_upcoming hlater) (ih _ (Nat.le_refl _))

theorem makes_settled {t : Nat} (hne : changes ≠ []) (hclock : clock ≤ t)
    (hlast : ∀ l ∈ last, l ≤ t) (horder : InOrder next t adds)
    (ih : ∀ rest : List Arrival, rest.length ≤ adds.length → FollowsPolicy c next rest) :
    Makes c next clock (settling changes t first last) adds
      (takesAt c next (first && c.discardFirst)
        (if first && c.discardFirst then last else some (takeTime c first last t)) changes
        (takeTime c first last t) adds) := by
  cases hdiscard : first && c.discardFirst with
  | true =>
    have htime : takeTime c first last t = t := by simp [takeTime, hdiscard]
    rw [htime, takesAt_of_inOrder horder]
    exact Makes.poll hclock rfl (settling_poll_discard hne hdiscard)
      (ih _ (Nat.le_refl _) _ _ _ horder hlast)
  | false =>
    by_cases hwait : ∃ l : Nat, last = some l ∧ t < l + c.spacing
    · obtain ⟨l, rfl, hl⟩ := hwait
      have htime : takeTime c first (some l) t = l + c.spacing := by
        simp only [takeTime, hdiscard]
        exact Nat.max_eq_right (Nat.le_of_lt hl)
      rw [htime]
      exact Makes.poll hclock rfl (settling_poll_postponed hne hdiscard (hlast l rfl) hl)
        (makes_spaced hne (Nat.le_of_lt hl) horder ih)
    · have hover : ∀ l : Nat, last = some l → l + c.spacing ≤ t := fun l hl =>
        Nat.le_of_not_lt fun hlt => hwait ⟨l, hl, hlt⟩
      have htime : takeTime c first last t = t := by
        cases last with
        | none => simp [takeTime]
        | some l =>
          simp only [takeTime, hdiscard]
          exact Nat.max_eq_left (hover l rfl)
      rw [htime, takesAt_of_inOrder horder]
      exact Makes.poll hclock rfl (settling_poll_ready hne hdiscard hover)
        (ih _ (Nat.le_refl _) _ _ _ horder (by simp))

theorem makes_settling {a : Arrival} (hquiet : 0 < c.quiet) (hne : changes ≠ [])
    (hlast : ∀ l ∈ last, l ≤ a.time) (horder : InOrder next a.time adds)
    (ih : ∀ rest : List Arrival, rest.length ≤ adds.length → FollowsPolicy c next rest) :
    Makes c next a.time (settling changes (a.time + c.quiet) first last) adds
      (match quietEnd c.quiet next (a::adds) with
      | none => []
      | some quiet => takesAt c next (first && c.discardFirst)
          (if first && c.discardFirst then last else some (takeTime c first last quiet)) changes
          (takeTime c first last quiet) adds) := by
  induction adds generalizing a changes with
  | nil =>
    rw [quietEnd]
    by_cases hnext : ∀ u ∈ next, a.time + c.quiet ≤ u
    · have hall : (upcoming next []).all (a.time + c.quiet ≤ ·) = true := by
        simpa [upcoming, Option.all_eq_true] using hnext
      rw [if_pos hall]
      exact makes_settled hne (Nat.le_add_right _ _)
        (fun l hl => Nat.le_trans (hlast l hl) (Nat.le_add_right _ _))
        (horder.of_upcoming hnext) ih
    · have hall : ¬(upcoming next []).all (a.time + c.quiet ≤ ·) = true := by
        simpa [upcoming, Option.all_eq_true] using hnext
      rw [if_neg hall]
      exact Makes.rest_of_early rfl horder hnext
  | cons b rest hrest =>
    rw [quietEnd]
    by_cases hb : a.time + c.quiet ≤ b.time
    · have hlater : ∀ u ∈ upcoming next (b::rest), a.time + c.quiet ≤ u := by
        simpa [upcoming] using hb
      rw [if_pos (by simpa [upcoming] using hb)]
      exact makes_settled hne (Nat.le_add_right _ _)
        (fun l hl => Nat.le_trans (hlast l hl) (Nat.le_add_right _ _))
        (horder.of_upcoming hlater) ih
    · rw [if_neg (by simpa [upcoming] using hb)]
      have hne' : changes ++ [b.change] ≠ [] := by simp
      have hnext := hrest hne' (fun l hl => Nat.le_trans (hlast l hl) horder.head_le) horder.tail
        fun rest' h => ih rest' (Nat.le_succ_of_le h)
      have hadd := Makes.add (d := settling changes (a.time + c.quiet) first last)
        horder.head_le (by simpa [settling] using hb) (by rw [settling_add]; exact hnext)
      cases hend : quietEnd c.quiet next (b::rest) with
      | none => simpa only [hend] using hadd
      | some quiet =>
        have hlt : b.time < takeTime c first last quiet :=
          Nat.lt_of_lt_of_le (lt_quietEnd hquiet horder.tail hend) (le_takeTime ..)
        simpa only [hend, takesAt_cons hlt] using hadd

theorem takesFrom_cons {a : Arrival} :
    takesFrom c next first last (a::adds) =
      match quietEnd c.quiet next (a::adds) with
      | none => []
      | some quiet => takesAt c next (first && c.discardFirst)
          (if first && c.discardFirst then last else some (takeTime c first last quiet)) [a.change]
          (takeTime c first last quiet) adds := by
  rw [takesFrom]
  cases quietEnd c.quiet next (a::adds) <;> rfl

theorem followsPolicy (hquiet : 0 < c.quiet) (adds : List Arrival) : FollowsPolicy c next adds := by
  induction h : adds.length using Nat.strong_induction_on generalizing adds with
  | _ n ih =>
    intro clock first last horder hlast
    cases adds with
    | nil =>
      rw [takesFrom]
      exact Makes.rest (fun t => horder.le_next) (by simp [idle])
    | cons a rest =>
      rw [takesFrom_cons]
      refine Makes.add horder.head_le (by simp [idle]) ?_
      rw [idle_add]
      refine makes_settling hquiet (by simp)
        (fun l hl => Nat.le_trans (hlast l hl) horder.head_le) horder.tail ?_
      intro rest' hlength
      refine ih rest'.length ?_ rest' rfl
      rw [← h]
      exact Nat.lt_succ_of_le hlength

/-! ### There is one prompt run for a sequence of changes -/

theorem IsPrompt.le_arrival {events : List (Instant × Event)} {a : Arrival}
    (h : IsPrompt c next clock d events) (ha : a ∈ events.filterMap arrival?) :
    clock ≤ a.time := by
  induction events generalizing clock d with
  | nil => simp at ha
  | cons entry rest ih =>
    match entry with
    | (now,.add key revision) =>
      obtain ⟨hclock, -, hrest⟩ := h
      rcases List.mem_cons.mp ha with rfl | ha
      · exact hclock
      · exact Nat.le_trans hclock (ih hrest ha)
    | (now,.poll) => exact Nat.le_trans h.1 (ih h.2.2 ha)
    | (_,.takeRest) => exact h.elim

theorem IsPrompt.le_next {events : List (Instant × Event)} {t : Instant}
    (h : IsPrompt c next clock d events) (ht : t ∈ next) : clock ≤ t := by
  induction events generalizing clock d with
  | nil => exact h.1 t ht
  | cons entry rest ih =>
    match entry with
    | (now,.add key revision) => exact Nat.le_trans h.1 (ih h.2.2)
    | (now,.poll) => exact Nat.le_trans h.1 (ih h.2.2)
    | (_,.takeRest) => exact h.elim

theorem IsPrompt.eq_poll_cons {events rest : List (Instant × Event)} {now : Instant}
    (h : IsPrompt c next clock d events) (hpoll : IsPrompt c next clock d ((now,.poll)::rest))
    (hsame : events.filterMap arrival? = rest.filterMap arrival?) :
    ∃ tail, events = (now,.poll)::tail := by
  obtain ⟨-, hdeadline, hrest⟩ := hpoll
  match events with
  | [] =>
    obtain ⟨t, ht, hlt⟩ := h.2 now hdeadline
    exact absurd hlt (Nat.not_lt.mpr (hrest.le_next ht))
  | (time,.add key revision)::tail =>
    have hle : now ≤ time := hrest.le_arrival (a := ⟨time,(key,revision)⟩) (by
      rw [← hsame]
      exact List.mem_cons_self)
    exact absurd (h.2.1 now hdeadline) (Nat.not_lt.mpr hle)
  | (time,.poll)::tail =>
    have htime : time = now := Option.some.inj (h.2.1.symm.trans hdeadline)
    exact ⟨tail, by rw [htime]⟩
  | (_,.takeRest)::_ => exact h.elim

theorem IsPrompt.unique {events events' : List (Instant × Event)}
    (h : IsPrompt c next clock d events) (h' : IsPrompt c next clock d events')
    (hsame : events.filterMap arrival? = events'.filterMap arrival?) : events = events' := by
  induction events generalizing clock d events' with
  | nil =>
    match events' with
    | [] => rfl
    | (_,.add _ _)::_ => cases hsame
    | (now,.poll)::rest =>
      obtain ⟨_, htail⟩ := h.eq_poll_cons h' hsame
      cases htail
    | (_,.takeRest)::_ => exact h'.elim
  | cons entry rest ih =>
    match entry, events' with
    | (now,.poll), events' =>
      obtain ⟨rest', rfl⟩ := h'.eq_poll_cons h hsame.symm
      rw [ih h.2.2 h'.2.2 hsame]
    | (_,.add _ _), [] => cases hsame
    | (now,.add key revision), (_,.add _ _)::rest' =>
      obtain ⟨hhead, htail⟩ := List.cons.inj hsame
      cases hhead
      rw [ih h.2.2 h'.2.2 htail]
    | (_,.add _ _), (_,.poll)::_ =>
      obtain ⟨_, htail⟩ := h.eq_poll_cons h' hsame
      cases htail
    | (_,.add _ _), (_,.takeRest)::_ => exact h'.elim
    | (_,.takeRest), _ => exact h.elim

/-- If the timer always fires just in time, then the changes are taken when the policy says, and in
its batches. A longer sequence of changes may follow from the instant `next` on. -/
theorem takes_of_prompt (c : Config) (hquiet : 0 < c.quiet) (next : Option Instant)
    (adds : List Arrival) (hsorted : (adds.map Arrival.time ++ next.toList).Pairwise (· ≤ ·)) :
    ∃ events, IsPrompt c next 0 {} events ∧ events.filterMap arrival? = adds ∧
      takes (log c {} events) = takesFrom c next true none adds ∧
      ∀ events', IsPrompt c next 0 {} events' → events'.filterMap arrival? = adds →
        events' = events := by
  have horder : InOrder next 0 adds := List.pairwise_cons.mpr ⟨fun _ _ => Nat.zero_le _, hsorted⟩
  obtain ⟨events, hprompt, hadds, htakes⟩ :=
    followsPolicy hquiet adds 0 true none horder (by simp)
  refine ⟨events, hprompt, hadds, htakes, ?_⟩
  intro events' hprompt' hadds'
  exact hprompt'.unique hprompt (hadds'.trans hadds.symm)

/-- The first take is discarded, the second keeps no distance, and the third has to wait. Changes at
the instant of a take come after it. -/
theorem takes_at_quiet_end_and_spacing :
    let c : Config := { quiet := 10, spacing := 30 }
    let change (version : String) : Resource.Key × Resource.Revision :=
      (⟨.pod, some "web", "a"⟩,⟨none, some version⟩)
    let adds : List Arrival := [⟨0,change "1"⟩, ⟨5,change "2"⟩, ⟨15,change "3"⟩, ⟨26,change "4"⟩,
      ⟨40,change "5"⟩, ⟨55,change "6"⟩]
    (0 < c.quiet ∧ (adds.map Arrival.time ++ [60]).Pairwise (· ≤ ·)) ∧
      takesFrom c (some 60) true none adds =
        [⟨15,true,ofList [change "1", change "2"]⟩, ⟨25,false,ofList [change "3"]⟩,
          ⟨55,false,ofList [change "4", change "5"]⟩] := by
  intro c change adds
  have hsorted : (adds.map Arrival.time ++ [60]).Pairwise (· ≤ ·) := by
    simp [adds]
  obtain ⟨events, -, -, htakes, hunique⟩ := takes_of_prompt c (by decide) (some 60) adds hsorted
  let key : Resource.Key := ⟨.pod, some "web", "a"⟩
  let prompt : List (Instant × Event) := [(0,.add key ⟨none, some "1"⟩),
    (5,.add key ⟨none, some "2"⟩), (15,.poll), (15,.add key ⟨none, some "3"⟩), (25,.poll),
    (26,.add key ⟨none, some "4"⟩), (36,.poll), (40,.add key ⟨none, some "5"⟩), (55,.poll),
    (55,.add key ⟨none, some "6"⟩)]
  have hprompt : IsPrompt c (some 60) 0 {} prompt := by decide
  refine ⟨⟨by decide, hsorted⟩, ?_⟩
  rw [← htakes, ← hunique prompt hprompt rfl]
  rfl

end WorkloadScan.Debouncer
