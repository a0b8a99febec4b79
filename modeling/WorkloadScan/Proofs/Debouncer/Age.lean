import WorkloadScan.Proofs.Debouncer.Policy
import WorkloadScan.Proofs.Debouncer.Spacing
import WorkloadScan.Proofs.Debouncer.Takes

/-! How long changes stay pending if the timer always fires in time. Once a flush is put off they
wait for the end of the spacing and no longer. Before that they wait for a quiet period, and changes
that keep coming within the quiet period of each other put its end off without bound. -/
namespace WorkloadScan.Debouncer
open Table (ofList)
variable {c : Config} {next : Option Instant} {clock now : Nat} {d : Debouncer}

def noteArrival (arrivals : List Arrival) (entry : Instant × Outcome) : List Arrival :=
  if entry.2.taken?.isSome then [] else arrivals ++ (entry.2.added?.map (Arrival.mk entry.1)).toList

def arrivalsSinceTake (entries : List (Instant × Outcome)) : List Arrival :=
  entries.foldl noteArrival []

/-- When a key was first changed since the last take. -/
def pendingSince (key : Resource.Key) (entries : List (Instant × Outcome)) : Option Instant :=
  ((arrivalsSinceTake entries).find? (·.change.1 = key)).map Arrival.time

/-- A moment of a prompt run: these events lie before it, and others may follow. -/
def IsMoment (c : Config) (events : List (Instant × Event)) (now : Instant) : Prop :=
  ∃ more next, IsPrompt c next 0 {} (events ++ more) ∧ (∀ e ∈ events, e.1 ≤ now) ∧
    (∀ e ∈ more, now ≤ e.1) ∧ ∀ t ∈ next, now ≤ t

/-- At every moment of every prompt run, what is pending has been so for `bound` at most. -/
def HasAgeBound (c : Config) (bound : Nat) : Prop :=
  ∀ events now, IsMoment c events now →
    ∀ key, (run c {} events).pending.contains key = true →
      ∃ since, pendingSince key (log c {} events) = some since ∧ now ≤ since + bound

/-- Changes have come within the quiet period of each other, up to now. -/
def IsUnbroken (quiet : Nat) (arrivals : List Arrival) (now : Instant) : Prop :=
  arrivals.IsChain (fun a b => b.time < a.time + quiet) ∧
    ∃ a ∈ arrivals.getLast?, now ≤ a.time + quiet

/-! ### What a prompt run keeps -/

/-- How the state of a prompt run agrees with the changes since the last take. -/
structure Settles (c : Config) (clock : Nat) (d : Debouncer) (arrivals : List Arrival) : Prop where
  paced : IsPaced c clock d
  later : ∀ last ∈ d.lastFlush, ∀ a ∈ arrivals, last ≤ a.time
  full : d.pending.isEmpty = arrivals.isEmpty
  due : d.rateLimited = false → d.deadline = arrivals.getLast?.map (·.time + c.quiet)
  close : d.rateLimited = false → arrivals.IsChain fun a b => b.time < a.time + c.quiet

variable {arrivals : List Arrival}

theorem settles_fresh (c : Config) : Settles c 0 {} [] :=
  ⟨isPaced_fresh c 0, by simp, rfl, fun _ => rfl, fun _ => .nil⟩

theorem settles_add {key : Resource.Key} {revision : Resource.Revision}
    (h : Settles c clock d arrivals) (hclock : clock ≤ now)
    (hearly : ∀ due ∈ d.deadline, now < due) :
    Settles c now (d.add c now key revision) (arrivals ++ [⟨now,(key,revision)⟩]) where
  paced := (isPaced_add h.paced now key revision).mono hclock
  later last hlast a ha := by
    rcases List.mem_append.mp ha with hold | hnew
    · exact h.later last hlast a hold
    · rw [List.mem_singleton.mp hnew]
      exact Nat.le_trans (h.paced.past last hlast) hclock
  full := by
    rw [add, Table.isEmpty_insert]
    simp
  due hfree := by
    have hold : d.rateLimited = false := hfree
    simp [add, hold]
  close hfree := by
    have hold : d.rateLimited = false := hfree
    refine List.isChain_append.mpr ⟨h.close hold, .singleton _, ?_⟩
    intro a ha b hb
    rw [List.head?_cons, Option.mem_some_iff] at hb
    subst hb
    refine hearly _ ?_
    rw [h.due hold, Option.mem_def.mp ha]
    rfl

theorem settles_poll (h : Settles c clock d arrivals) (hclock : clock ≤ now)
    (hdue : d.deadline = some now) :
    Settles c now (d.poll c now).1 (noteArrival arrivals (now,.polled (d.poll c now).2)) := by
  have hpaced := isPaced_poll h.paced hclock
  have hp := polled_poll c now d
  generalize d.poll c now = r at hpaced hp ⊢
  cases hp with
  | early early => simp [isEarly, hdue] at early
  | nothing late void =>
    -- A deadline stands only while something is pending.
    exfalso
    have hnone : arrivals = [] := List.isEmpty_iff.mp (h.full.symm.trans void)
    cases hlimited : d.rateLimited with
    | true => simpa [void] using (h.paced.kept hlimited).2.1
    | false =>
      have hdeadline := h.due hlimited
      rw [hdue, hnone] at hdeadline
      cases hdeadline
  | discarded | ready =>
    exact ⟨hpaced, by simp [noteArrival, Outcome.taken?], rfl, fun _ => rfl, fun _ => .nil⟩
  | postponed late full =>
    have hsame :
        noteArrival arrivals (now,.polled (.postponed (d.remaining c now) d.pending.size)) =
          arrivals := by
      simp [noteArrival, Outcome.taken?, Outcome.added?]
    rw [hsame]
    exact ⟨hpaced, h.later, h.full, by simp, by simp⟩

theorem IsPrompt.settles {events more : List (Instant × Event)}
    (h : IsPrompt c next clock d (events ++ more)) (hs : Settles c clock d arrivals) :
    ∃ clock', IsPrompt c next clock' (run c d events) more ∧
      Settles c clock' (run c d events) ((log c d events).foldl noteArrival arrivals) := by
  induction events generalizing clock d arrivals with
  | nil => exact ⟨clock, h, hs⟩
  | cons entry rest ih =>
    match entry with
    | (now,.add key revision) =>
      obtain ⟨hclock, hearly, hrest⟩ := h
      have hnext := @settles_add c clock now d arrivals key revision hs hclock hearly
      exact ih hrest hnext
    | (now,.poll) =>
      obtain ⟨hclock, hdue, hrest⟩ := h
      exact ih hrest (settles_poll hs hclock hdue)
    | (_,.takeRest) => exact h.elim

theorem IsPrompt.le_deadline {more : List (Instant × Event)} {t : Instant}
    (h : IsPrompt c next clock d more) (hmore : ∀ e ∈ more, t ≤ e.1) (hnext : ∀ u ∈ next, t ≤ u)
    {due : Instant} (hdue : due ∈ d.deadline) : t ≤ due := by
  match more with
  | [] =>
    obtain ⟨u, hu, hlt⟩ := h.2 due hdue
    exact Nat.le_trans (hnext u hu) (Nat.le_of_lt hlt)
  | (now,.add key revision)::_ =>
    exact Nat.le_trans (hmore _ List.mem_cons_self) (Nat.le_of_lt (h.2.1 due hdue))
  | (now,.poll)::_ =>
    have hnow : now = due := Option.some.inj (h.2.1.symm.trans hdue)
    exact hnow ▸ hmore _ List.mem_cons_self
  | (_,.takeRest)::_ => exact h.elim

/-- At every moment something is pending for the spacing at most, or changes have kept coming. -/
theorem waits_at_moment {events : List (Instant × Event)} {t : Instant} (h : IsMoment c events t)
    {a : Arrival} (ha : a ∈ arrivalsSinceTake (log c {} events)) :
    t ≤ a.time + c.spacing ∨ IsUnbroken c.quiet (arrivalsSinceTake (log c {} events)) t := by
  obtain ⟨more, next, hprompt, -, hmore, hnext⟩ := h
  obtain ⟨clock, hrest, hs⟩ := hprompt.settles (settles_fresh c)
  have hdeadline {due : Instant} :=
    @IsPrompt.le_deadline c next clock _ more t hrest hmore hnext due
  change Settles c clock (run c {} events) (arrivalsSinceTake (log c {} events)) at hs
  cases hlimited : (run c {} events).rateLimited with
  | true =>
    obtain ⟨-, -, last, hlast, hdue⟩ := hs.paced.kept hlimited
    refine .inl (Nat.le_trans (hdeadline hdue) (Nat.add_le_add_right ?_ c.spacing))
    exact hs.later last hlast a ha
  | false =>
    refine .inr ⟨hs.close hlimited, ?_⟩
    have hb := List.getLast?_eq_getLast_of_ne_nil (List.ne_nil_of_mem ha)
    refine ⟨_, hb, hdeadline ?_⟩
    rw [hs.due hlimited, hb]
    rfl

/-! ### Since when a key is pending -/

theorem map_change_arrivalsSinceTake (entries : List (Instant × Outcome)) :
    (arrivalsSinceTake entries).map Arrival.change = sinceTake entries := by
  induction entries using List.reverseRecOn with
  | nil => rfl
  | append_singleton entries e ih =>
    obtain ⟨now, outcome⟩ := e
    rw [sinceTake_concat, ← ih, arrivalsSinceTake, List.foldl_append]
    simp only [List.foldl_cons, List.foldl_nil, noteArrival]
    split
    · rfl
    · cases outcome.added? <;> simp [arrivalsSinceTake]

theorem isSome_pendingSince {events : List (Instant × Event)} {key : Resource.Key} :
    (pendingSince key (log c {} events)).isSome = true ↔
      (run c {} events).pending.contains key = true := by
  rw [pending_run, Table.contains_ofList, ← map_change_arrivalsSinceTake, pendingSince,
    Option.isSome_map, List.find?_isSome, List.map_map, List.mem_map]
  simp

theorem mem_of_pendingSince {entries : List (Instant × Outcome)} {key : Resource.Key} {t : Instant}
    (h : pendingSince key entries = some t) : ∃ a ∈ arrivalsSinceTake entries, a.time = t := by
  obtain ⟨a, hfind, rfl⟩ := Option.map_eq_some_iff.mp h
  exact ⟨a, List.mem_of_find?_eq_some hfind, rfl⟩

/-! ### Changes that keep coming -/

def burst (key : Resource.Key) (gap : Nat) (start : Nat) : Nat → List (Instant × Event)
  | 0 => [(start,.add key ⟨none, none⟩)]
  | n + 1 => (start,.add key ⟨none, none⟩) :: burst key gap (start + gap) n

variable {key : Resource.Key} {gap start n : Nat}

theorem isPrompt_burst (hgap : gap < c.quiet) (hclock : clock ≤ start)
    (hfree : d.rateLimited = false) (hearly : ∀ due ∈ d.deadline, start < due) :
    IsPrompt c (some (start + n * gap)) clock d (burst key gap start n) := by
  induction n generalizing clock start d with
  | zero =>
    have hquiet : start < start + c.quiet := by omega
    refine ⟨hclock, hearly, by simp, ?_⟩
    simpa [add, hfree] using hquiet
  | succ n ih =>
    have hend : start + (n + 1) * gap = start + gap + n * gap := by
      rw [Nat.succ_mul]
      omega
    have hdue : start + gap < start + c.quiet := by omega
    refine ⟨hclock, hearly, ?_⟩
    rw [hend]
    exact ih (Nat.le_add_right _ _) hfree (by simpa [add, hfree] using hdue)

theorem mem_burst {e : Instant × Event} (h : e ∈ burst key gap start n) :
    e.2 = .add key ⟨none, none⟩ ∧ e.1 ≤ start + n * gap := by
  induction n generalizing start with
  | zero =>
    rw [List.mem_singleton.mp h]
    exact ⟨rfl, Nat.le_add_right _ _⟩
  | succ n ih =>
    rcases List.mem_cons.mp h with rfl | hrest
    · exact ⟨rfl, Nat.le_add_right _ _⟩
    · obtain ⟨hadd, hle⟩ := ih hrest
      refine ⟨hadd, Nat.le_trans hle ?_⟩
      rw [Nat.succ_mul]
      omega

theorem prefix_foldl_noteArrival {entries : List (Instant × Outcome)}
    (h : ∀ e ∈ entries, e.2.taken? = none) : arrivals <+: entries.foldl noteArrival arrivals := by
  induction entries generalizing arrivals with
  | nil => exact List.prefix_refl arrivals
  | cons e rest ih =>
    obtain ⟨hnone, hrest⟩ := List.forall_mem_cons.mp h
    refine List.IsPrefix.trans ?_ (ih hrest)
    simp [noteArrival, hnone]

theorem pendingSince_burst (c : Config) (key : Resource.Key) (gap start n : Nat) :
    pendingSince key (log c {} (burst key gap start n)) = some start := by
  obtain ⟨rest, hburst⟩ :
      ∃ rest, burst key gap start n = (start,.add key ⟨none, none⟩) :: rest := by
    cases n <;> exact ⟨_, rfl⟩
  have hnone : ∀ d, ∀ e ∈ log c d rest, e.2.taken? = none := by
    intro d e he
    have hmem : (e.1,e.2.cause) ∈ burst key gap start n :=
      hburst ▸ List.mem_cons_of_mem _ (cause_mem_of_mem_log he)
    have hadd := (mem_burst hmem).1
    cases ho : e.2 <;> simp_all [Outcome.cause, Outcome.taken?]
  rw [hburst, log, pendingSince, arrivalsSinceTake, List.foldl_cons]
  obtain ⟨later, hlater⟩ := @prefix_foldl_noteArrival
    (noteArrival [] (start,(apply c start {} (.add key ⟨none, none⟩)).2)) _
    (hnone (apply c start {} (.add key ⟨none, none⟩)).1)
  rw [← hlater]
  simp [noteArrival, apply, Outcome.taken?, Outcome.added?]

theorem isMoment_burst (hgap : gap < c.quiet) :
    IsMoment c (burst key gap 0 n) (0 + n * gap) := by
  refine ⟨[], some (0 + n * gap), ?_, fun e he => (mem_burst he).2, by simp, by simp⟩
  rw [List.append_nil]
  exact isPrompt_burst hgap (Nat.le_refl 0) rfl (by simp)

theorem not_hasAgeBound (hpos : 0 < gap) (hgap : gap < c.quiet) (bound : Nat) :
    ¬HasAgeBound c bound := by
  intro h
  let key : Resource.Key := ⟨.pod, some "web", "a"⟩
  have hmoment : IsMoment c (burst key gap 0 (bound + 1)) (0 + (bound + 1) * gap) :=
    isMoment_burst hgap
  have hsince := pendingSince_burst c key gap 0 (bound + 1)
  have hpending := isSome_pendingSince.mp (by rw [hsince]; rfl)
  obtain ⟨since, hsome, hle⟩ := h _ _ hmoment key hpending
  rw [hsince] at hsome
  cases hsome
  have hbound : (0 + (bound + 1) * gap : Nat) ≤ 0 + bound := hle
  have hmul : bound + 1 ≤ (bound + 1) * gap := Nat.le_mul_of_pos_right _ hpos
  omega

theorem last_le_of_quiet_le_one (hquiet : c.quiet ≤ 1)
    (hchain : arrivals.IsChain fun a b => b.time < a.time + c.quiet) {a last : Arrival}
    (hlast : last ∈ arrivals.getLast?) (ha : a ∈ arrivals) : last.time ≤ a.time := by
  have hback : (arrivals.map Arrival.time).IsChain (· ≥ ·) := by
    rw [List.isChain_map]
    refine hchain.imp fun a b (hab : b.time < a.time + c.quiet) => ?_
    exact Nat.le_of_lt_succ (Nat.lt_of_lt_of_le hab (Nat.add_le_add_left hquiet _))
  obtain ⟨earlier, rfl⟩ := List.getLast?_eq_some_iff.mp hlast
  rw [List.isChain_iff_pairwise, List.map_append] at hback
  rcases List.mem_append.mp ha with hold | hnew
  · exact (List.pairwise_append.mp hback).2.2 _ (List.mem_map_of_mem hold) _ (by simp)
  · rw [List.mem_singleton.mp hnew]

theorem hasAgeBound_of_quiet_le_one (hquiet : c.quiet ≤ 1) :
    HasAgeBound c (c.spacing + c.quiet) := by
  intro events now hmoment key hpending
  obtain ⟨since, hsince⟩ := Option.isSome_iff_exists.mp (isSome_pendingSince.mpr hpending)
  obtain ⟨a, ha, rfl⟩ := mem_of_pendingSince hsince
  refine ⟨a.time, hsince, ?_⟩
  rcases waits_at_moment hmoment ha with hspaced | ⟨hchain, last, hlast, hnow⟩
  · exact Nat.le_trans hspaced (Nat.add_le_add_left (Nat.le_add_right _ _) _)
  · have hle : last.time ≤ a.time := last_le_of_quiet_le_one hquiet hchain hlast ha
    exact Nat.le_trans hnow (Nat.add_le_add hle (Nat.le_add_left _ _))

/-- The age of what is pending is bounded only if no change can come within the quiet period of
another one. In every case what has been pending for longer than the spacing has waited while
changes kept coming within the quiet period of each other. -/
theorem ageBound_iff (c : Config) :
    ((∃ bound, HasAgeBound c bound) ↔ c.quiet ≤ 1) ∧
    ∀ events now, IsMoment c events now →
      ∀ key, (run c {} events).pending.contains key = true →
        ∃ since, pendingSince key (log c {} events) = some since ∧
          (now ≤ since + c.spacing ∨
            IsUnbroken c.quiet (arrivalsSinceTake (log c {} events)) now) := by
  refine ⟨⟨fun ⟨bound, hbound⟩ => ?_, fun hquiet => ⟨_, hasAgeBound_of_quiet_le_one hquiet⟩⟩, ?_⟩
  · by_contra hquiet
    exact not_hasAgeBound Nat.one_pos (Nat.lt_of_not_le hquiet) bound hbound
  · intro events now hmoment key hpending
    obtain ⟨since, hsince⟩ := Option.isSome_iff_exists.mp (isSome_pendingSince.mpr hpending)
    obtain ⟨a, ha, rfl⟩ := mem_of_pendingSince hsince
    exact ⟨a.time, hsince, waits_at_moment hmoment ha⟩

/-- Changes 9 ms apart keep a pod pending under a quiet period of 10 ms, however many they are. -/
theorem no_ageBound_under_steady_changes :
    let c : Config := { quiet := 10000000, spacing := 20000000, discardFirst := false }
    let pod : Resource.Key := ⟨.pod, some "web", "a"⟩
    0 < c.spacing ∧
    (∀ n, IsMoment c (burst pod 9000000 0 n) (0 + n * 9000000) ∧
      pendingSince pod (log c {} (burst pod 9000000 0 n)) = some 0) ∧
    ¬∃ bound, HasAgeBound c bound := by
  intro c pod
  refine ⟨by decide, fun n => ⟨isMoment_burst (by decide), pendingSince_burst ..⟩, ?_⟩
  rintro ⟨bound, hbound⟩
  exact @not_hasAgeBound c 9000000 (by decide) (by decide) bound hbound

end WorkloadScan.Debouncer
