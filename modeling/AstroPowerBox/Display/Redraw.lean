import AstroPowerBox.Display.StatusDisplay

/-!
# Redrawing

What is on the panel after a call of `loop` that comes when the suppression of content is over.
`content_iff` says when it is the screen that was requested last: the request must not have been
ignored, as one for the home screen is by the power screens and the idle screen, and the screen must
be due to be drawn, by a clock that has not wrapped since the suppression, or be in the buffer already.
-/

namespace AstroPowerBox.Display
open Foundation

/-- The screens that have been requested. -/
def requests (calls : List DisplayCall) : List EScreen :=
  calls.filterMap fun c => match c.request with
    | .setScreen screen => some screen
    | _ => none

/-- The real time at which the last suppression ends, that of power-up if there was none. -/
def suppressedUntil (calls : List DisplayCall) : ℕ :=
  (calls.filterMap fun c => match c.request with
    | .suppressContentTemporary _ durationMs => some (c.start + durationMs.toNat)
    | _ => none).getLastD 0

/-- A call of `loop` past the suppression, after `s` was requested last and some screen other than
off before. -/
def MayShow (s : EScreen) (hist : List DisplayCall) (c : DisplayCall) : Prop :=
  c.request = .loop ∧ suppressedUntil hist < c.start ∧
    (∃ s' ∈ requests hist, s' ≠ .off) ∧ (requests hist).getLast? = some s

instance {s : EScreen} {hist : List DisplayCall} {c : DisplayCall} : Decidable (MayShow s hist c) :=
  inferInstanceAs (Decidable (_ ∧ _ ∧ _ ∧ _))

/-- After the call the screen that was requested last is on the panel. -/
def ShowsRequested (splash : Content) (hist : List DisplayCall) (c : DisplayCall) : Prop :=
  ∀ s, MayShow s hist c →
    (run StatusDisplay.step (.boot splash) (hist ++ [c])).panel = s.create.content

/-- The screens that take themselves for the home screen. -/
def EScreen.posesAsHome : EScreen → Bool
  | powerBatCam | powerPcMount | powerHeaters | idle => true
  | home | startup | off => false

/-- The request before the home screen was asked for. -/
def lastOther (reqs : List EScreen) : Option EScreen := (reqs.filter (· ≠ .home)).getLast?

/-- The home screen was requested last, and before that a screen that takes itself for it. -/
def Ignored (reqs : List EScreen) : Prop :=
  reqs.getLast? = some .home ∧ ∃ s ∈ lastOther reqs, s.posesAsHome = true

/-- The last request was not ignored; and its screen is in the buffer already, or it is due to be
drawn and the counter has not wrapped since the end of the suppression. -/
def Current (splash : Content) (hist : List DisplayCall) (c : DisplayCall) : Prop :=
  ∀ s, MayShow s hist c →
    let d := run StatusDisplay.step (.boot splash) hist
    ¬ Ignored (requests hist) ∧
      (d.buffer = s.create.content ∨
        d.nextContentUpdate ≤ millis c.start ∧ ¬ WrappedBehind (suppressedUntil hist) c.start)

variable {d : StatusDisplay} {a : Screen} {splash : Content} {start stop : ℕ}
  {hist calls : List DisplayCall} {c : DisplayCall}

/-- What the display keeps of the last suppression. -/
lemma noContentUntil_run : (run StatusDisplay.step (.boot splash) calls).noContentUntil
    = millis (suppressedUntil calls) := by
  induction calls using List.reverseRecOn with
  | nil => rfl
  | append_singleton calls c ih =>
    obtain ⟨start, stop, request⟩ := c
    rw [run_concat]
    cases request with
    | setScreen s =>
      have hsame : suppressedUntil (calls ++ [⟨start, stop, .setScreen s⟩])
          = suppressedUntil calls := by
        simp [suppressedUntil]
      rw [hsame, ← ih]
      exact StatusDisplay.noContentUntil_setScreen
    | suppressContentTemporary drawn durationMs =>
      have hlast : suppressedUntil
          (calls ++ [⟨start, stop, .suppressContentTemporary drawn durationMs⟩])
          = start + durationMs.toNat := by
        simp [suppressedUntil]
      rw [hlast, millis_add]
      rfl
    | loop =>
      have hsame : suppressedUntil (calls ++ [⟨start, stop, .loop⟩]) = suppressedUntil calls := by
        simp [suppressedUntil]
      rw [hsame, ← ih]
      exact StatusDisplay.noContentUntil_loop

/-! ## Buffer and panel of an active screen -/

/-- The buffer holds the active screen, a message, or nothing that is not going to be drawn. -/
structure Consistent (d : StatusDisplay) (a : Screen) : Prop where
  screen : d.screen = some a
  buffer : d.buffer = a.content ∨ d.buffer = .message ∧ d.wasSuppressed = true ∨
    d.buffer = .blank ∧ d.nextContentUpdate = 0
  panel : d.panel = d.buffer ∨ d.nextBarUpdate = 0

namespace Consistent

/-- What was drawn over a message, or into a cleared buffer, is the content alone. -/
lemma buffer_showContent {time : ℕ} (h : Consistent d a) :
    (d.showContent a time).buffer = a.content := by
  simp only [StatusDisplay.showContent]
  split_ifs with hsuppressed
  · exact Screen.show_blank
  · rcases h.buffer with hbuffer | ⟨-, htrue⟩ | ⟨hbuffer, -⟩
    · rw [hbuffer, Screen.show_content]
    · exact absurd htrue hsuppressed
    · rw [hbuffer, Screen.show_blank]

/-- What a call of `loop` leaves in the buffer is on the panel. -/
lemma panel_loop (h : Consistent d a) : (d.loop start stop).panel = (d.loop start stop).buffer := by
  rw [StatusDisplay.loop]
  split
  · rw [StatusDisplay.panel_showBar (.inl rfl), StatusDisplay.buffer_showBar]
  · rw [StatusDisplay.panel_showBar (.inr h.panel), StatusDisplay.buffer_showBar]

/-- A loop that is due draws the content. -/
lemma buffer_loop_of_due (h : Consistent d a) (due : d.contentDue (millis start) = some a) :
    (d.loop start stop).buffer = a.content := by
  rw [StatusDisplay.loop, due]
  exact StatusDisplay.buffer_showBar.trans h.buffer_showContent

/-- Otherwise it draws the status bar at most. -/
lemma loop_of_not_due (h : d.contentDue (millis start) = none) :
    d.loop start stop = d.showBar false (millis start) := by
  rw [StatusDisplay.loop, h]

/-- No screen but the active one is due. -/
lemma contentDue_cases (h : Consistent d a) :
    d.contentDue (millis start) = some a ∨ d.contentDue (millis start) = none := by
  rw [StatusDisplay.contentDue, h.screen]
  split_ifs
  · exact .inl rfl
  · exact .inr rfl

/-- A loop leaves the display consistent. -/
protected lemma loop (h : Consistent d a) : Consistent (d.loop start stop) a where
  screen := StatusDisplay.screen_loop.trans h.screen
  buffer := by
    rcases h.contentDue_cases with due | due
    · exact .inl (h.buffer_loop_of_due due)
    · rw [loop_of_not_due due, StatusDisplay.showBar]
      split_ifs
      · exact h.buffer
      · exact h.buffer
      · exact h.buffer
  panel := .inl h.panel_loop

/-- So does a message. -/
protected lemma suppressContentTemporary {drawn : Bool} {durationMs : UInt32} {time : ℕ}
    (h : Consistent d a) : Consistent (d.suppressContentTemporary drawn durationMs time) a where
  screen := h.screen
  buffer := by
    cases drawn with
    | false =>
      rcases h.buffer with hbuffer | ⟨hbuffer, -⟩ | hbuffer
      · exact .inl hbuffer
      · exact .inr (.inl ⟨hbuffer, rfl⟩)
      · exact .inr (.inr hbuffer)
    | true => exact .inr (.inl ⟨rfl, rfl⟩)
  panel := .inr rfl

/-- A call that does not draw the active screen leaves the buffer as it is. -/
lemma buffer_loop (h : Consistent d a) : (d.loop start stop).buffer =
    if d.nextContentUpdate ≤ millis start ∧ d.noContentUntil < millis start then a.content
    else d.buffer := by
  split_ifs with hdue
  · exact h.buffer_loop_of_due (StatusDisplay.contentDue_eq_some.mpr ⟨hdue, h.screen⟩)
  · have hnone : d.contentDue (millis start) = none := if_neg hdue
    rw [loop_of_not_due hnone, StatusDisplay.buffer_showBar]

/-- The screen is on the panel, if it was in the buffer already or has been drawn. -/
lemma panel_loop_eq_iff (h : Consistent d a) : (d.loop start stop).panel = a.content ↔
    d.buffer = a.content ∨
      d.nextContentUpdate ≤ millis start ∧ d.noContentUntil < millis start := by
  rw [h.panel_loop, h.buffer_loop]
  split_ifs with hdue
  · exact iff_of_true rfl (.inr hdue)
  · exact ⟨.inl, fun h => h.resolve_right hdue⟩

/-- What is on the panel and is not the active screen is nothing or a message. -/
lemma panel_loop_cases (h : Consistent d a) : (d.loop start stop).panel = a.content ∨
    (d.loop start stop).panel = .message ∨ (d.loop start stop).panel = .blank := by
  rw [h.panel_loop]
  rcases h.loop.buffer with hbuffer | ⟨hbuffer, -⟩ | ⟨hbuffer, -⟩
  · exact .inl hbuffer
  · exact .inr (.inl hbuffer)
  · exact .inr (.inr hbuffer)

end Consistent

/-- A request for another screen clears the buffer and makes the screen due. -/
lemma consistent_setScreen_of_ne {s : EScreen} (h : s ≠ d.getScreen) :
    Consistent (d.setScreen s) s.create := by
  rw [StatusDisplay.setScreen, if_pos h]
  exact ⟨rfl, .inr (.inr ⟨rfl, rfl⟩), .inr rfl⟩

/-! ## The active screen of a run -/

section
variable {s t : EScreen} {reqs : List EScreen}

/-- The request that has been followed last, if `s` was made last. -/
def followed (s : EScreen) (reqs : List EScreen) : EScreen :=
  if s = .home then ((lastOther reqs).filter EScreen.posesAsHome).getD .home else s

/-- A request for the home screen leaves the one before it alone. -/
lemma lastOther_concat : lastOther (reqs ++ [s]) = if s = .home then lastOther reqs else some s := by
  rw [lastOther, List.filter_append]
  split_ifs with h
  · simp [h, lastOther]
  · simp [h]

/-- A request for another screen is the last other one itself. -/
lemma lastOther_of_last (last : reqs.getLast? = some s) (ne : s ≠ .home) :
    lastOther reqs = some s := by
  obtain ⟨reqs, rfl⟩ := List.getLast?_eq_some_iff.mp last
  rw [lastOther_concat, if_neg ne]

/-- The type of such a screen is that of the home screen. -/
lemma posesAsHome_iff : s.posesAsHome = true ↔ s ≠ .home ∧ s.create.getType = .home := by
  cases s <;> decide

/-- A request is ignored exactly if another one has been followed last. -/
lemma followed_eq_iff (last : reqs.getLast? = some s) : followed s reqs = s ↔ ¬ Ignored reqs := by
  rw [followed, Ignored, last]
  split_ifs with hhome
  · subst hhome
    cases hother : lastOther reqs with
    | none => simp
    | some t =>
      cases hposes : t.posesAsHome with
      | false => simp [Option.filter_some, hposes]
      | true => simp [Option.filter_some, hposes, (posesAsHome_iff.mp hposes).1]
  · simp [hhome]

/-- What the requests say about the active screen. -/
inductive Tracks (d : StatusDisplay) (reqs : List EScreen) : Prop
  | empty (screen : d.screen = none) (off : ∀ s ∈ reqs, s = .off)
  | active (s : EScreen) (last : reqs.getLast? = some s)
      (consistent : Consistent d (followed s reqs).create)

/-- A request that the active screen does not take for itself is followed. -/
lemma followed_concat_of_ne (last : reqs.getLast? = some t)
    (ne : s ≠ (followed t reqs).create.getType) : followed s (reqs ++ [s]) = s := by
  rw [followed_eq_iff List.getLast?_concat, Ignored, List.getLast?_concat]
  rintro ⟨hhome, t', ht', hposes⟩
  obtain rfl := Option.some_inj.mp hhome
  rw [lastOther_concat, if_pos rfl] at ht'
  refine ne (Eq.symm ?_)
  by_cases ht : t = .home
  · -- the home screen had been requested in vain before
    rw [followed, if_pos ht, Option.mem_def.mp ht', Option.filter_some, if_pos hposes,
      Option.getD_some]
    exact (posesAsHome_iff.mp hposes).2
  · rw [lastOther_of_last last ht] at ht'
    obtain rfl := Option.some_inj.mp ht'
    rw [followed, if_neg ht]
    exact (posesAsHome_iff.mp hposes).2

/-- A request that the active screen takes for itself changes nothing. -/
lemma followed_concat_of_eq (last : reqs.getLast? = some t)
    (eq : s = (followed t reqs).create.getType) :
    (followed s (reqs ++ [s])).create = (followed t reqs).create := by
  by_cases hs : s = .home
  · subst hs
    rw [followed, if_pos rfl, lastOther_concat, if_pos rfl]
    by_cases ht : t = .home
    · rw [followed, if_pos ht]
    · rw [followed, if_neg ht] at eq ⊢
      rw [lastOther_of_last last ht, Option.filter_some,
        if_pos (posesAsHome_iff.mpr ⟨ht, eq.symm⟩), Option.getD_some]
  · rw [followed, if_neg hs, eq]
    rw [eq] at hs
    exact (Screen.create_getType.resolve_left hs).symm

/-- What a request does to the active screen. -/
lemma tracks_setScreen (h : Tracks d reqs) : Tracks (d.setScreen s) (reqs ++ [s]) := by
  cases h with
  | empty screen off =>
    have hscreen : d.getScreen = .off := by
      rw [StatusDisplay.getScreen, screen, Option.elim_none]
    by_cases hoff : s = .off
    · have hkeep : d.setScreen s = d := by
        rw [StatusDisplay.setScreen, if_neg (by simp [hscreen, hoff])]
      rw [hkeep]
      refine .empty screen fun s' hs' => ?_
      rcases List.mem_append.mp hs' with hs' | hs'
      · exact off s' hs'
      · rw [List.mem_singleton.mp hs', hoff]
    · -- nothing but the off screen has been requested before
      have hfollowed : followed s (reqs ++ [s]) = s := by
        rw [followed_eq_iff List.getLast?_concat, Ignored, List.getLast?_concat]
        rintro ⟨hhome, t, ht, hposes⟩
        rw [lastOther_concat, if_pos (Option.some_inj.mp hhome)] at ht
        have hmem : t ∈ reqs := List.mem_of_mem_filter (List.mem_of_getLast? ht)
        rw [off t hmem] at hposes
        cases hposes
      refine .active s List.getLast?_concat ?_
      rw [hfollowed]
      exact consistent_setScreen_of_ne (by rwa [hscreen])
  | active t last consistent =>
    have hscreen : d.getScreen = (followed t reqs).create.getType :=
      StatusDisplay.getScreen_of_screen consistent.screen
    refine .active s List.getLast?_concat ?_
    by_cases hne : s ≠ d.getScreen
    · rw [followed_concat_of_ne last (hscreen ▸ hne)]
      exact consistent_setScreen_of_ne hne
    · have hkeep : d.setScreen s = d := by rw [StatusDisplay.setScreen, if_neg hne]
      rw [hkeep, followed_concat_of_eq last (hscreen ▸ not_ne_iff.mp hne)]
      exact consistent

end

/-- What a call does to the active screen. -/
lemma tracks_step (h : Tracks d (requests hist)) : Tracks (d.step c) (requests (hist ++ [c])) := by
  obtain ⟨start, stop, request⟩ := c
  cases request with
  | setScreen s =>
    have happend : requests (hist ++ [⟨start, stop, .setScreen s⟩]) = requests hist ++ [s] := by
      simp [requests]
    rw [happend]
    exact tracks_setScreen h
  | suppressContentTemporary drawn durationMs =>
    have hsame : requests (hist ++ [⟨start, stop, .suppressContentTemporary drawn durationMs⟩])
        = requests hist := by
      simp [requests]
    rw [hsame]
    cases h with
    | empty screen off => exact .empty screen off
    | active s last consistent => exact .active s last consistent.suppressContentTemporary
  | loop =>
    have hsame : requests (hist ++ [⟨start, stop, .loop⟩]) = requests hist := by
      simp [requests]
    rw [hsame]
    cases h with
    | empty screen off => exact .empty (StatusDisplay.screen_loop.trans screen) off
    | active s last consistent => exact .active s last consistent.loop

/-- The active screen by the history of requests. -/
lemma tracks_run : Tracks (run StatusDisplay.step (.boot splash) calls) (requests calls) := by
  induction calls using List.reverseRecOn with
  | nil => exact .empty rfl (by simp [requests])
  | append_singleton calls c ih =>
    rw [run_concat]
    exact tracks_step ih

/-! ## The screen on the panel -/

/-- One call: the requested screen is shown if and only if it is current. -/
lemma showsRequested_iff : ShowsRequested splash hist c ↔ Current splash hist c := by
  refine forall₂_congr fun s may => ?_
  obtain ⟨hloop, hpast, ⟨s', hs', hne⟩, hlast⟩ := may
  have hstep (d : StatusDisplay) : d.step c = d.loop c.start c.stop := by
    rw [StatusDisplay.step, hloop]
  have htracks : Tracks (run StatusDisplay.step (.boot splash) hist) (requests hist) := tracks_run
  have hclock : (run StatusDisplay.step (.boot splash) hist).noContentUntil < millis c.start ↔
      ¬ WrappedBehind (suppressedUntil hist) c.start := by
    rw [noContentUntil_run, deadline_lt_iff hpast]
  rw [run_concat, hstep]
  cases htracks with
  | empty _ off => exact absurd (off s' hs') hne
  | active s₁ last consistent =>
    rw [hlast] at last
    cases last
    by_cases hfollowed : followed s (requests hist) = s
    · rw [hfollowed] at consistent
      rw [consistent.panel_loop_eq_iff, hclock]
      exact (and_iff_right ((followed_eq_iff hlast).mp hfollowed)).symm
    · -- the home screen was requested in vain, and another one is active
      have hignored : Ignored (requests hist) := by
        rwa [followed_eq_iff hlast, not_not] at hfollowed
      refine iff_of_false (fun hshown => ?_) fun hcurrent => hcurrent.1 hignored
      obtain rfl := Option.some_inj.mp (hlast.symm.trans hignored.1)
      rcases consistent.panel_loop_cases with hpanel | hpanel | hpanel
      · have hactive := Screen.content_eq_home (hpanel.symm.trans hshown)
        exact hfollowed (EScreen.create_eq_home hactive)
      · cases hpanel.symm.trans hshown
      · cases hpanel.symm.trans hshown

/-- The display shows what was requested exactly in the runs in which, at every call that may show
content, the last request was not ignored, and its screen is in the buffer already or due to be drawn
by a clock that has not wrapped. -/
theorem content_iff (splash : Content) (calls : List DisplayCall) :
    EveryStep (ShowsRequested splash) calls ↔ EveryStep (Current splash) calls :=
  forall₃_congr fun _ _ _ => showsRequested_iff

/-- The power screen takes itself for the home screen, which cannot be requested after it. -/
theorem content_backToHome : ¬ ∀ (splash : Content) (calls : List DisplayCall),
    Chronological 0 calls → EveryStep (ShowsRequested splash) calls := by
  intro h
  have hlast := h .blank
    [⟨1000, 1000, .setScreen .powerBatCam⟩, ⟨1001, 1020, .loop⟩, ⟨1030, 1030, .setScreen .home⟩,
      ⟨2000, 2020, .loop⟩] (by decide)
    [⟨1000, 1000, .setScreen .powerBatCam⟩, ⟨1001, 1020, .loop⟩, ⟨1030, 1030, .setScreen .home⟩]
    ⟨2000, 2020, .loop⟩ List.prefix_rfl .home
  revert hlast
  decide +kernel

end AstroPowerBox.Display
