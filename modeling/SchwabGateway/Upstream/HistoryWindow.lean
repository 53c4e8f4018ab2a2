import SchwabGateway.Upstream.History

set_option autoImplicit false

namespace SchwabGateway.Upstream

open SchwabGateway.Library SchwabGateway.Python

-- The date a window ends on: the newest one not later than today, or today.
inductive Anchored (dates : List Date) (today anchor : Date) : Prop where
  | newest (listed : anchor ∈ dates) (past : anchor ≤ today) (last : ∀ date ∈ dates, date ≤ today → date ≤ anchor)
  | none (future : ∀ date ∈ dates, today < date) (same : anchor = today)

theorem anchored_iff (dates : List Date) (today anchor : Date) :
    Anchored dates today anchor ↔ anchor = anchorDate dates today := by
  unfold anchorDate
  cases newest : (dates.filter (· ≤ today)).max? with
  | none =>
      have future : ∀ date ∈ dates, today < date := by
        intro date member
        have passed := List.filter_eq_nil_iff.mp (List.max?_eq_none_iff.mp newest) date member
        exact not_le.mp (fun past => passed (decide_eq_true past))
      constructor
      · intro anchored
        cases anchored with
        | newest listed past _ => exact absurd (future anchor listed) (not_lt.mpr past)
        | none _ same => exact same
      · exact .none future
  | some date =>
      obtain ⟨inside, last⟩ := List.max?_eq_some_iff.mp newest
      obtain ⟨listed, past⟩ := List.mem_filter.mp inside
      have before := of_decide_eq_true past
      have latest : ∀ other ∈ dates, other ≤ today → other ≤ date := fun other member early =>
        last other (List.mem_filter.mpr ⟨member, decide_eq_true early⟩)
      constructor
      · intro anchored
        cases anchored with
        | newest here early lastHere => exact le_antisymm (latest anchor here early) (lastHere date listed before)
        | none future _ => exact absurd (future date listed) (not_lt.mpr before)
      · rintro rfl
        exact .newest listed before latest

section Window

variable (literals : Literals) (eastern : Zone) (symbol : String) (frequency : Frequency)
  (items : List PyValue) (receivedAt : Datetime) (threshold : PyFloat) (daysBack : Int)

structure Windowed (history : HistoryV1) : Prop where
  daily : frequency = .daily → history.bars = (wellFormedBars literals items).rtake daysBack.toNat
  minute : frequency = .minute → ∃ anchor,
    Anchored (barDates eastern (wellFormedBars literals items)) (eastern.date receivedAt) anchor ∧
      history.bars = (wellFormedBars literals items).filter (withinDays eastern anchor daysBack)
  flagged : "no_bars_returned" ∈ history.dataQualityFlags ↔ history.bars = []

-- The window of well-formed candles is returned, any other list is refused.
structure HistoryLaw : Prop where
  returned : WellFormed literals items → ∃ history,
    normalizeHistory literals eastern symbol frequency (.list items) receivedAt threshold (some daysBack) =
      .ok history ∧ Windowed literals eastern frequency items receivedAt daysBack history
  refused : ¬ WellFormed literals items → ∃ error,
    normalizeHistory literals eastern symbol frequency (.list items) receivedAt threshold (some daysBack) =
      .error error

inductive Served : Prop where
  | empty (none : items = [])
  | daily (same : frequency = .daily) (calendar : 2 ≤ Calendar.latestCandidate eastern receivedAt)
  | minute (same : frequency = .minute) (anchor : Date)
      (listed : anchor ∈ barDates eastern (wellFormedBars literals items))
      (past : anchor ≤ eastern.date receivedAt)
      (last : ∀ date ∈ barDates eastern (wellFormedBars literals items),
        date ≤ eastern.date receivedAt → date ≤ anchor)
      (calendar : daysBack ≤ anchor)

theorem normalize_history_ok (days : Option Int) (history : HistoryV1)
    (accepted : normalizeHistory literals eastern symbol frequency (.list items) receivedAt threshold days =
      .ok history) :
    WellFormed literals items ∧
      requestedBars eastern frequency (wellFormedBars literals items) receivedAt days = .ok history.bars ∧
      (∃ stale, historyStale eastern frequency (history.bars.getLast?.map PriceBarV1.timestamp) receivedAt
        threshold = .ok stale) ∧
      ("no_bars_returned" ∈ history.dataQualityFlags ↔ wellFormedBars literals items = []) := by
  unfold normalizeHistory at accepted
  dsimp only at accepted
  obtain ⟨bars, collected, accepted⟩ := (bind_ok_iff _ _ _).mp accepted
  split at accepted
  · cases accepted
  · rename_i counted
    obtain ⟨kept, requested, accepted⟩ := (bind_ok_iff _ _ _).mp accepted
    obtain ⟨stale, judged, accepted⟩ := (bind_ok_iff _ _ _).mp accepted
    cases accepted
    have formed := well_formed_of_counted literals items bars collected (not_not.mp counted)
    obtain rfl := collect_bars_collected literals items bars collected
    refine ⟨formed, requested, ⟨stale, judged⟩, ?_⟩
    simp [mem_flag_if]

theorem history_of_parts (kept : List PriceBarV1) (stale : Bool) (formed : WellFormed literals items)
    (requested : requestedBars eastern frequency (wellFormedBars literals items) receivedAt (some daysBack) =
      .ok kept)
    (judged : historyStale eastern frequency (kept.getLast?.map PriceBarV1.timestamp) receivedAt threshold =
      .ok stale) :
    ∃ history, normalizeHistory literals eastern symbol frequency (.list items) receivedAt threshold
        (some daysBack) = .ok history ∧ history.bars = kept ∧
      ("no_bars_returned" ∈ history.dataQualityFlags ↔ wellFormedBars literals items = []) := by
  obtain ⟨collected, counted⟩ := well_formed_collected literals items formed
  unfold normalizeHistory
  dsimp only
  rw [collected]
  dsimp only [bind, Except.bind]
  rw [if_neg (not_not.mpr counted), requested]
  dsimp only
  rw [judged]
  exact ⟨_, rfl, rfl, by simp [mem_flag_if]⟩

theorem requested_daily (bars : List PriceBarV1) (positive : 1 ≤ daysBack) :
    requestedBars eastern .daily bars receivedAt (some daysBack) = .ok (bars.rtake daysBack.toNat) := by
  unfold requestedBars
  cases bars with
  | nil =>
      rw [List.rtake_nil]
      rfl
  | cons bar rest =>
      dsimp only
      rw [if_neg (by simp; omega)]

theorem requested_minute (bars : List PriceBarV1) (some_ : bars ≠ []) (positive : 1 ≤ daysBack) :
    requestedBars eastern .minute bars receivedAt (some daysBack) =
      minuteWindow eastern bars receivedAt daysBack := by
  unfold requestedBars
  dsimp only
  rw [if_neg]
  simp only [Bool.or_eq_true, List.isEmpty_iff, some_, decide_eq_true_eq, false_or]
  omega

theorem rtake_nonempty (bars : List PriceBarV1) (some_ : bars ≠ []) (positive : 1 ≤ daysBack) :
    bars.rtake daysBack.toNat ≠ [] := by
  have length := List.length_pos_iff.mpr some_
  rw [List.rtake, ne_eq, List.drop_eq_nil_iff]
  omega

theorem before_calendar_iff (anchor days : Int) : anchor - (days - 1) < 1 ↔ ¬ days ≤ anchor := by
  omega

theorem anchor_within (bars : List PriceBarV1) (anchor : Date) (listed : anchor ∈ barDates eastern bars)
    (positive : 1 ≤ daysBack) : bars.filter (withinDays eastern anchor daysBack) ≠ [] := by
  obtain ⟨bar, member, rfl⟩ := List.mem_map.mp listed
  apply List.ne_nil_of_mem (a := bar)
  apply List.mem_filter.mpr
  exact ⟨member, decide_eq_true ⟨Int.sub_le_self _ (Int.sub_nonneg_of_le positive), le_refl _⟩⟩

theorem two_le_to_nat (number : Int) : 2 ≤ number.toNat ↔ 2 ≤ number := by
  omega

theorem latest_session_ok_iff :
    (∃ day, Calendar.latestCompletedSession eastern receivedAt = .ok day) ↔
      2 ≤ Calendar.latestCandidate eastern receivedAt := by
  rw [Calendar.latestCompletedSession, Calendar.last_trading_day_ok_iff]
  exact two_le_to_nat _

theorem served_returned (positive : 1 ≤ daysBack) (formed : WellFormed literals items)
    (served : Served literals eastern frequency items receivedAt daysBack) :
    ∃ history, normalizeHistory literals eastern symbol frequency (.list items) receivedAt threshold
        (some daysBack) = .ok history ∧
      Windowed literals eastern frequency items receivedAt daysBack history := by
  by_cases none_ : wellFormedBars literals items = []
  · have requested : requestedBars eastern frequency (wellFormedBars literals items) receivedAt
        (some daysBack) = .ok [] := by
      rw [none_]
      rfl
    have judged : historyStale eastern frequency (([] : List PriceBarV1).getLast?.map PriceBarV1.timestamp)
        receivedAt threshold = .ok true := by
      cases frequency with
      | daily => rfl
      | minute => rfl
    obtain ⟨history, accepted, kept, flagged⟩ := history_of_parts literals eastern symbol frequency items
      receivedAt threshold daysBack [] true formed requested judged
    refine ⟨history, accepted, ?_, ?_, ?_⟩
    · intro _
      rw [kept, none_, List.rtake_nil]
    · intro _
      exact ⟨_, (anchored_iff _ _ _).mpr rfl, by rw [kept, none_]; rfl⟩
    · rw [flagged, kept]
      simp [none_]
  · cases served with
    | empty none =>
        rw [none] at none_
        exact absurd rfl none_
    | daily same calendar =>
        subst same
        have requested := requested_daily eastern receivedAt daysBack (wellFormedBars literals items) positive
        have bars := rtake_nonempty daysBack (wellFormedBars literals items) none_ positive
        obtain ⟨day, latest⟩ := (latest_session_ok_iff eastern receivedAt).mpr calendar
        have judged : historyStale eastern .daily (((wellFormedBars literals items).rtake
            daysBack.toNat).getLast?.map PriceBarV1.timestamp) receivedAt threshold =
            .ok (decide (eastern.date ((wellFormedBars literals items).rtake daysBack.toNat |>.getLast
              bars).timestamp < day)) := by
          rw [List.getLast?_eq_getLast_of_ne_nil bars, Option.map_some, historyStale, latest]
          rfl
        obtain ⟨history, accepted, kept, flagged⟩ := history_of_parts literals eastern symbol .daily items
          receivedAt threshold daysBack _ _ formed requested judged
        refine ⟨history, accepted, fun _ => kept, nofun, ?_⟩
        rw [flagged, kept]
        simp [none_, bars]
    | minute same anchor listed past last calendar =>
        subst same
        have newest := (anchored_iff _ _ _).mp (.newest listed past last)
        have bars := anchor_within eastern daysBack _ anchor listed positive
        have requested : requestedBars eastern .minute (wellFormedBars literals items) receivedAt
            (some daysBack) = .ok ((wellFormedBars literals items).filter
              (withinDays eastern anchor daysBack)) := by
          rw [requested_minute eastern receivedAt daysBack _ none_ positive, minuteWindow, ← newest]
          rw [if_neg (mt (before_calendar_iff anchor daysBack).mp (not_not.mpr calendar))]
        obtain ⟨history, accepted, kept, flagged⟩ := history_of_parts literals eastern symbol .minute items
          receivedAt threshold daysBack _ _ formed requested rfl
        refine ⟨history, accepted, nofun, fun _ => ⟨anchor, .newest listed past last, kept⟩, ?_⟩
        rw [flagged, kept]
        simp [none_, bars]

theorem returned_served (positive : 1 ≤ daysBack) (formed : WellFormed literals items) (history : HistoryV1)
    (accepted : normalizeHistory literals eastern symbol frequency (.list items) receivedAt threshold
      (some daysBack) = .ok history)
    (windowed : Windowed literals eastern frequency items receivedAt daysBack history) :
    Served literals eastern frequency items receivedAt daysBack := by
  obtain ⟨_, requested, ⟨stale, judged⟩, flagged⟩ := normalize_history_ok literals eastern symbol frequency
    items receivedAt threshold (some daysBack) history accepted
  by_cases none_ : items = []
  · exact .empty none_
  · have some_ : wellFormedBars literals items ≠ [] := by
      have counted := (well_formed_collected literals items formed).2
      intro empty
      rw [empty] at counted
      exact none_ (List.length_eq_zero_iff.mp counted.symm)
    have kept : history.bars ≠ [] := mt (windowed.flagged.trans (Iff.refl _)).mpr (mt flagged.mp some_)
    cases frequency with
    | daily =>
        rw [List.getLast?_eq_getLast_of_ne_nil kept, Option.map_some, historyStale] at judged
        obtain ⟨latest, completed, _⟩ := (bind_ok_iff _ _ _).mp judged
        exact .daily rfl ((latest_session_ok_iff eastern receivedAt).mp ⟨latest, completed⟩)
    | minute =>
        obtain ⟨anchor, anchored, bars⟩ := windowed.minute rfl
        rw [requested_minute eastern receivedAt daysBack _ some_ positive, minuteWindow] at requested
        rw [← (anchored_iff _ _ _).mp anchored] at requested
        have calendar : daysBack ≤ anchor := by
          by_contra beyond
          rw [if_pos ((before_calendar_iff anchor daysBack).mpr beyond)] at requested
          cases requested
        cases anchored with
        | newest listed past last => exact .minute rfl anchor listed past last calendar
        | none future same =>
            obtain ⟨bar, inside⟩ := List.exists_mem_of_ne_nil _ kept
            rw [bars] at inside
            obtain ⟨member, within⟩ := List.mem_filter.mp inside
            have ahead := future _ (List.mem_map.mpr ⟨bar, member, rfl⟩)
            have behind := (of_decide_eq_true within).2
            rw [same] at behind
            exact absurd behind (not_le.mpr ahead)

theorem law_served (positive : 1 ≤ daysBack)
    (law : HistoryLaw literals eastern symbol frequency items receivedAt threshold daysBack)
    (formed : WellFormed literals items) : Served literals eastern frequency items receivedAt daysBack := by
  obtain ⟨history, accepted, windowed⟩ := law.returned formed
  exact returned_served literals eastern symbol frequency items receivedAt threshold daysBack positive formed
    history accepted windowed

end Window

def candleOn (day : Nat) : PyValue :=
  .dict [(.str "datetime", .int (1785506400000 + 86400000 * day)), (.str "open", .float (.finite 11)),
    (.str "high", .float (.finite 12)), (.str "low", .float (.finite 10)),
    (.str "close", .float (.finite 11)), (.str "volume", .int 100)]

-- A Friday and the three days after the weekend, read on the second of them:
-- the Friday is too old, the last day is still to come.
def severalDays : List PyValue := [candleOn 7, candleOn 10, candleOn 11, candleOn 12]

def oneBar : List PyValue := [sampleCandle (.finite 11)]

end SchwabGateway.Upstream
