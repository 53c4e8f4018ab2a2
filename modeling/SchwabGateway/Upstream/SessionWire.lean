import SchwabGateway.Library.Except
import SchwabGateway.Upstream.Json
import SchwabGateway.Upstream.SessionHistory

set_option autoImplicit false

namespace SchwabGateway.Upstream

open SchwabGateway.Library SchwabGateway.Python

namespace PriceBarV1

def modelDump (bar : PriceBarV1) : Json :=
  .object [
    ("timestamp", .datetime bar.timestamp),
    ("open", .ofFloat bar.open_),
    ("high", .ofFloat bar.high),
    ("low", .ofFloat bar.low),
    ("close", .ofFloat bar.close),
    ("volume", .int bar.volume)]

def fieldNames : List String := ["timestamp", "open", "high", "low", "close", "volume"]

def modelValidate : Json.Reader PriceBarV1
  | _, .object fields => do
      let timestamp ← Json.required fields "timestamp" Json.readDatetime
      let open_ ← Json.required fields "open" Json.readFloat
      let high ← Json.required fields "high" Json.readFloat
      let low ← Json.required fields "low" Json.readFloat
      let close ← Json.required fields "close" Json.readFloat
      let volume ← Json.required fields "volume" Json.readInt
      Json.onlyFields fieldNames fields
      validated timestamp open_ high low close volume
  | field, _ => .error (.validation field "Input should be an object")

def Finite (bar : PriceBarV1) : Prop :=
  bar.open_.isfinite ∧ bar.high.isfinite ∧ bar.low.isfinite ∧ bar.close.isfinite

instance (bar : PriceBarV1) : Decidable bar.Finite :=
  inferInstanceAs (Decidable (_ ∧ _ ∧ _ ∧ _))

end PriceBarV1

def Session.text : Session → String
  | .regular => "regular"
  | .extended => "extended"

def Session.read : Json.Reader Session
  | _, .text "regular" => .ok .regular
  | _, .text "extended" => .ok .extended
  | field, _ => .error (.validation field "Input should be 'regular' or 'extended'")

def readAge : Json.Reader ℚ≥0
  | field, .float age =>
      if 0 ≤ age then .ok age.toNNRat
      else .error (.validation field "age_seconds must be nonnegative")
  | field, .int age =>
      if 0 ≤ age then .ok (roundDouble age).toNNRat
      else .error (.validation field "age_seconds must be nonnegative")
  | field, _ => .error (.validation field "Input should be a valid number")

namespace SessionHistoryV1

def modelDump (history : SessionHistoryV1) : Json :=
  .object [
    ("symbol", .text history.symbol),
    ("date", .date history.date),
    ("session", .text history.session.text),
    ("candles", .array (history.candles.map PriceBarV1.modelDump)),
    ("event_timestamp", .ofOption .datetime history.eventTimestamp),
    ("gateway_received_at", .datetime history.gatewayReceivedAt),
    ("source", .text history.source),
    ("stale", .bool history.stale),
    ("age_seconds", .ofOption (fun age : ℚ≥0 => .float age) history.ageSeconds),
    ("data_quality_flags", .array (history.dataQualityFlags.map .text))]

def fieldNames : List String :=
  ["symbol", "date", "session", "candles", "event_timestamp", "gateway_received_at", "source",
    "stale", "age_seconds", "data_quality_flags"]

def modelValidate : Json → Result SessionHistoryV1
  | .object fields => do
      let symbol ← Json.required fields "symbol" Json.readText
      let date ← Json.required fields "date" Json.readDate
      let session ← Json.required fields "session" Session.read
      let candles ← Json.required fields "candles" (Json.readArray PriceBarV1.modelValidate)
      let eventTimestamp ←
        Json.defaulted fields "event_timestamp" none (Json.readNullable Json.readDatetime)
      let gatewayReceivedAt ← Json.required fields "gateway_received_at" Json.readDatetime
      let source ← Json.required fields "source" Json.readText
      let stale ← Json.required fields "stale" Json.readBool
      let ageSeconds ← Json.defaulted fields "age_seconds" none (Json.readNullable readAge)
      let dataQualityFlags ←
        Json.defaulted fields "data_quality_flags" [] (Json.readArray Json.readText)
      Json.onlyFields fieldNames fields
      return {
        eventTimestamp, ageSeconds, stale, dataQualityFlags, symbol, date, session, candles,
        gatewayReceivedAt, source }
  | _ => .error (.validation "" "Input should be an object")

end SessionHistoryV1

-- A bar that is written is read back if no price of it became null.
theorem bar_round_trip (field : String) (bar : PriceBarV1) (finite : bar.Finite) :
    PriceBarV1.modelValidate field bar.modelDump = .ok bar := by
  obtain ⟨opens, highs, lows, closes⟩ := finite
  have openRead := Json.read_finite "open" bar.open_
  have highRead := Json.read_finite "high" bar.high
  have lowRead := Json.read_finite "low" bar.low
  have closeRead := Json.read_finite "close" bar.close
  rw [if_pos opens] at openRead
  rw [if_pos highs] at highRead
  rw [if_pos lows] at lowRead
  rw [if_pos closes] at closeRead
  unfold PriceBarV1.modelValidate PriceBarV1.modelDump
  simp [Json.required, List.lookup_cons, openRead, highRead, lowRead, closeRead, Json.readDatetime,
    Json.readInt, Json.onlyFields, PriceBarV1.fieldNames, PriceBarV1.validated,
    bar.volumeNonnegative, bind, Except.bind, pure, Except.pure]

theorem bar_read_finite (field : String) (bar result : PriceBarV1)
    (read : PriceBarV1.modelValidate field bar.modelDump = .ok result) : bar.Finite := by
  unfold PriceBarV1.modelValidate PriceBarV1.modelDump at read
  obtain ⟨_, _, read⟩ := (bind_ok_iff _ _ _).mp read
  obtain ⟨_, opens, read⟩ := (bind_ok_iff _ _ _).mp read
  obtain ⟨_, highs, read⟩ := (bind_ok_iff _ _ _).mp read
  obtain ⟨_, lows, read⟩ := (bind_ok_iff _ _ _).mp read
  obtain ⟨_, closes, _⟩ := (bind_ok_iff _ _ _).mp read
  exact ⟨Json.read_finite_only "open" bar.open_ _ opens, Json.read_finite_only "high" bar.high _ highs,
    Json.read_finite_only "low" bar.low _ lows, Json.read_finite_only "close" bar.close _ closes⟩

theorem nullable_option {α : Type} (read : Json.Reader α) (write : α → Json) (field : String)
    (value : Option α) (visible : ∀ a, write a ≠ .null)
    (faithful : ∀ a, read field (write a) = .ok a) :
    Json.readNullable read field (Json.ofOption write value) = .ok value := by
  cases value with
  | none => rfl
  | some a =>
      rw [Json.ofOption, Json.readNullable, faithful]
      · rfl
      · exact visible a

theorem read_age (field : String) (age : ℚ≥0) : readAge field (.float age) = .ok age := by
  rw [readAge, if_pos (NNRat.coe_nonneg age), NNRat.toNNRat_coe]

theorem read_session (field : String) (session : Session) :
    Session.read field (.text session.text) = .ok session := by
  cases session with
  | regular => rfl
  | extended => rfl

theorem validate_dump (history : SessionHistoryV1) :
    SessionHistoryV1.modelValidate history.modelDump =
      (Json.readItems PriceBarV1.modelValidate "candles"
        (history.candles.map PriceBarV1.modelDump)).map
        (fun candles => { history with candles := candles }) := by
  have event := nullable_option Json.readDatetime .datetime "event_timestamp" history.eventTimestamp
    (fun _ same => Json.noConfusion same) (fun _ => rfl)
  have age := nullable_option readAge (fun age : ℚ≥0 => .float age) "age_seconds" history.ageSeconds
    (fun _ same => Json.noConfusion same) (read_age "age_seconds")
  have session := read_session "session" history.session
  have flags := Json.read_items_map Json.readText .text "data_quality_flags" history.dataQualityFlags
    (fun _ _ => rfl)
  unfold SessionHistoryV1.modelValidate SessionHistoryV1.modelDump
  cases bars : Json.readItems PriceBarV1.modelValidate "candles"
      (history.candles.map PriceBarV1.modelDump) with
  | error error =>
      simp [Json.required, List.lookup_cons, Json.readText, Json.readDate, session, Json.readArray, bars,
        bind, Except.bind, Except.map]
  | ok candles =>
      simp [Json.required, Json.defaulted, List.lookup_cons, Json.readText, Json.readDate, session,
        Json.readArray, bars, event, Json.readDatetime, Json.readBool, age, flags,
        Json.onlyFields, SessionHistoryV1.fieldNames, bind, Except.bind, pure, Except.pure, Except.map]

theorem bars_read_iff {γ : Type} (field : String) (bars : List PriceBarV1) (build : List PriceBarV1 → γ) :
    (Json.readItems PriceBarV1.modelValidate field (bars.map PriceBarV1.modelDump)).map build =
      .ok (build bars) ↔ ∀ bar ∈ bars, bar.Finite := by
  constructor
  · intro read bar member
    obtain ⟨others, collected, _⟩ := (map_ok_iff _ _ _).mp read
    obtain ⟨result, back⟩ := Json.read_items_ok _ _ _ _ _ collected bar member
    exact bar_read_finite field bar result back
  · intro finite
    rw [Json.read_items_map _ _ _ _ (fun bar member => bar_round_trip field bar (finite bar member))]
    rfl

theorem history_round_trip_iff (history : SessionHistoryV1) :
    SessionHistoryV1.modelValidate history.modelDump = .ok history ↔
      ∀ bar ∈ history.candles, bar.Finite := by
  rw [validate_dump]
  exact bars_read_iff "candles" history.candles (fun candles => { history with candles := candles })

end SchwabGateway.Upstream
