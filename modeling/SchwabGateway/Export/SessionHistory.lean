import SchwabGateway.Client.Understood
import SchwabGateway.Export.Evidence
import SchwabGateway.Library.Keyed
import SchwabGateway.Upstream.SessionSplit

set_option autoImplicit false

namespace SchwabGateway.Export

open SchwabGateway.Api SchwabGateway.Client SchwabGateway.Library SchwabGateway.Python SchwabGateway.Upstream

structure CandlesDocument where
  symbol : String
  sessionDate : Date
  retrievedAt : Datetime
  candles : List PriceBarV1
deriving DecidableEq

structure Manifest where
  symbol : String
  sessionDate : Date
  retrievedAt : Datetime
  candlesPath : String
  candlesSha256 : String
  candleCount : Nat
  regularCandleCount : Nat
  extendedCandleCount : Nat
  regularQualityFlags : List String
  extendedQualityFlags : List String
deriving DecidableEq

inductive ExportError (ε : Type) where
  | invalidSymbol
  | relativeRoot
  | client (error : ε)
  | stale
  | noCandles (symbol : String) (date : Date)
  | os (error : OsError)
deriving DecidableEq

structure ExportRequest where
  symbol : String
  date : Date
  outputRoot : Path
  absolute : Bool
  now : Datetime

def candlesByTimestamp (regular extended : SessionHistoryV1) : OrderedMap Datetime PriceBarV1 :=
  byKey PriceBarV1.timestamp (regular.candles ++ extended.candles)

def exportedCandles (regular extended : SessionHistoryV1) : List PriceBarV1 :=
  sortedByKey PriceBarV1.timestamp (regular.candles ++ extended.candles)

section Code

variable {ε : Type} (unicode : Unicode) (request : ExportRequest)

-- The part before the first file. asyncio.gather ends with both histories or
-- with an exception.
def gatherCandles (gathered : Except ε (SessionHistoryV1 × SessionHistoryV1)) :
    Except (ExportError ε) CandlesDocument :=
  let normalizedSymbol := ticker unicode request.symbol
  if symbolPattern normalizedSymbol then
    if request.absolute then
      match gathered with
      | .error error => .error (.client error)
      | .ok (regular, extended) =>
          if regular.stale || extended.stale then .error .stale
          else if (candlesByTimestamp regular extended).entries.isEmpty then
            .error (.noCandles normalizedSymbol request.date)
          else .ok ⟨normalizedSymbol, request.date, request.now, exportedCandles regular extended⟩
    else .error .relativeRoot
  else .error .invalidSymbol

-- A name under a path. A single dot is no name.
def under (parent : Path) (name : String) : Path := if name = "." then parent else name :: parent

def underscored (symbol : String) : String := symbol.map (fun c => if c = '/' then '_' else c)

-- stamp is strftime with the format of the export.
def runDirectory (stamp : Datetime → String) (document : CandlesDocument) : Path :=
  under (under (under request.outputRoot (underscored document.symbol)) document.sessionDate.isoformat)
    (stamp document.retrievedAt)

def candlesName : String := "candles_1m.json"
def manifestName : String := "manifest.json"

def manifestOf (regular extended : SessionHistoryV1) (document : CandlesDocument) (digest : String) : Manifest where
  symbol := document.symbol
  sessionDate := document.sessionDate
  retrievedAt := document.retrievedAt
  candlesPath := candlesName
  candlesSha256 := digest
  candleCount := (candlesByTimestamp regular extended).entries.length
  regularCandleCount := regular.candles.length
  extendedCandleCount := extended.candles.length
  regularQualityFlags := regular.dataQualityFlags
  extendedQualityFlags := extended.dataQualityFlags

structure EvidenceCodec (Content : Type) where
  candles : CandlesDocument → Content
  manifest : Manifest → Content
  sha256 : Content → String

variable {Content : Type} (answers : EvidenceAnswers Content) (codec : EvidenceCodec Content)

-- The part from mkdir on.
def writeEvidence (run : Path) (document : CandlesDocument) (manifest : String → Manifest) :
    EvidenceAction Content Path := do
  mkdir answers false run
  writePrivateJson answers .candles (candlesName :: run) (codec.candles document)
  let digest ← sha256File answers codec.sha256 (candlesName :: run)
  writePrivateJson answers .manifest (manifestName :: run) (codec.manifest (manifest digest))
  return manifestName :: run

def exportSessionHistory (stamp : Datetime → String)
    (gathered : Except ε (SessionHistoryV1 × SessionHistoryV1)) (disk : Disk Content) :
    Except (ExportError ε) Path × Disk Content :=
  match gatherCandles unicode request gathered, gathered with
  | .error error, _ => (.error error, disk)
  | .ok _, .error error => (.error (.client error), disk)
  | .ok document, .ok (regular, extended) =>
      match writeEvidence answers codec (runDirectory request stamp document) document
          (manifestOf regular extended document) disk with
      | (.error error, after) => (.error (.os error), after)
      | (.ok path, after) => (.ok path, after)

end Code

section Merged

variable {ε : Type} (literals : Literals) (eastern : Zone) (unicode : Unicode) (request : ExportRequest)

def duringAt (date : Date) (at_ : Datetime) : Bool :=
  decide (timeOfDay 9 30 ≤ eastern.time at_ ∧ eastern.time at_ < closeOf date)

theorem gathered_document (regular extended : SessionHistoryV1) (document : CandlesDocument)
    (done : gatherCandles (ε := ε) unicode request (.ok (regular, extended)) = .ok document) :
    document = ⟨ticker unicode request.symbol, request.date, request.now, exportedCandles regular extended⟩ ∧
      (regular.candles ≠ [] ∨ extended.candles ≠ []) := by
  rw [gatherCandles] at done
  by_cases valid : symbolPattern (ticker unicode request.symbol) = true
  · rw [if_pos valid] at done
    by_cases absolute : request.absolute = true
    · rw [if_pos absolute] at done
      by_cases stale : (regular.stale || extended.stale) = true
      · rw [if_pos stale] at done
        cases done
      · rw [if_neg stale] at done
        by_cases empty : (candlesByTimestamp regular extended).entries.isEmpty = true
        · rw [if_pos empty] at done
          cases done
        · rw [if_neg empty] at done
          cases done
          refine ⟨rfl, ?_⟩
          by_contra none_
          obtain ⟨first, second⟩ := not_or.mp none_
          rw [candlesByTimestamp, not_not.mp first, not_not.mp second] at empty
          exact empty rfl
    · rw [if_neg absolute] at done
      cases done
  · rw [if_neg valid] at done
    cases done

variable (regularItems extendedItems : List PyValue) (symbol : String) (threshold : PyFloat)
  (regularAt extendedAt : Datetime) (regular extended : SessionHistoryV1)

theorem session_candles
    (one : normalizeSessionHistory literals eastern symbol request.date .regular (.list regularItems) regularAt
      threshold = .ok regular)
    (two : normalizeSessionHistory literals eastern symbol request.date .extended (.list extendedItems) extendedAt
      threshold = .ok extended)
    (some_ : regular.candles ≠ [] ∨ extended.candles ≠ []) :
    Calendar.isTradingDay request.date = true ∧
      regular.candles ++ extended.candles =
        (barsOn literals eastern request.date regularItems).filter
            (fun bar => duringAt eastern request.date bar.timestamp) ++
          (barsOn literals eastern request.date extendedItems).filter
            (fun bar => !duringAt eastern request.date bar.timestamp) := by
  obtain ⟨items, bars, dropped, same, read, shown⟩ :=
    normalize_session_history_ok literals eastern symbol request.date .regular _ regularAt threshold regular one
  obtain ⟨others, rest, later, equal, also, given⟩ :=
    normalize_session_history_ok literals eastern symbol request.date .extended _ extendedAt threshold extended two
  cases same
  cases equal
  have regularBars : regular.candles = bars := by rw [shown]; rfl
  have extendedBars : extended.candles = rest := by rw [given]; rfl
  have first := (session_bars_collected literals eastern request.date .regular _ bars dropped read).1
  have second := (session_bars_collected literals eastern request.date .extended _ rest later also).1
  rw [regularBars, extendedBars, first, second] at some_ ⊢
  cases trading : Calendar.isTradingDay request.date with
  | true =>
      rw [filter_belongs_trading literals eastern request.date .regular _ trading,
        filter_belongs_trading literals eastern request.date .extended _ trading]
      refine ⟨rfl, congrArg₂ (· ++ ·) ?_ ?_⟩
      · simp [during, duringAt]
      · simp [during, duringAt]
  | false =>
      rw [filter_belongs_holiday literals eastern request.date .regular _ trading,
        filter_belongs_holiday literals eastern request.date .extended _ trading] at some_
      simp at some_

-- The candles of an export are those of the day in strictly ascending order:
-- for every timestamp the last well-formed bar, of the regular session as the
-- first answer has it and of the rest of the day as the second one has it. The
-- manifest counts what is written.
theorem export_merges_session
    (one : normalizeSessionHistory literals eastern symbol request.date .regular (.list regularItems) regularAt
      threshold = .ok regular)
    (two : normalizeSessionHistory literals eastern symbol request.date .extended (.list extendedItems) extendedAt
      threshold = .ok extended)
    (document : CandlesDocument)
    (done : gatherCandles (ε := ε) unicode request (.ok (regular, extended)) = .ok document) :
    Calendar.isTradingDay request.date = true ∧
      document.candles.Pairwise (fun earlier later => earlier.timestamp < later.timestamp) ∧
      (∀ bar, bar ∈ document.candles ↔ LastOfKey PriceBarV1.timestamp
        (if duringAt eastern request.date bar.timestamp then barsOn literals eastern request.date regularItems
          else barsOn literals eastern request.date extendedItems) bar) ∧
      (regularItems = extendedItems →
        document.candles = sortedByKey PriceBarV1.timestamp (barsOn literals eastern request.date regularItems)) ∧
      ∀ digest, (manifestOf regular extended document digest).candleCount = document.candles.length := by
  obtain ⟨own, some_⟩ := gathered_document unicode request regular extended document done
  obtain ⟨trading, parts⟩ := session_candles literals eastern request regularItems extendedItems symbol threshold
    regularAt extendedAt regular extended one two some_
  have candles : document.candles = exportedCandles regular extended := by rw [own]
  refine ⟨trading, ?_, ?_, ?_, ?_⟩
  · rw [candles]
    exact sorted_by_key_strict _ _
  · intro bar
    rw [candles, exportedCandles, mem_sorted_by_key, parts]
    exact last_of_key_parts PriceBarV1.timestamp (duringAt eastern request.date) _ _ bar
  · intro same
    rw [candles, exportedCandles, parts, ← same]
    exact sorted_by_key_parts PriceBarV1.timestamp (duringAt eastern request.date) _
  · intro digest
    rw [candles]
    exact (sorted_by_key_length PriceBarV1.timestamp _).symm

end Merged

section Files

variable {ε Content : Type} (unicode : Unicode) (request : ExportRequest) (answers : EvidenceAnswers Content)
  (codec : EvidenceCodec Content)

theorem names_apart (first second : Path) : manifestName :: first ≠ candlesName :: second := by
  intro same
  have equal : manifestName = candlesName := (List.cons.inj same).1
  exact absurd equal (by decide)

theorem name_outside (run : Path) (name : String) : ¬ name :: run <:+ run := by
  intro inside
  have longer := inside.length_le
  rw [List.length_cons] at longer
  omega

def EvidenceOf (run at_ : Path) (node : Node Content) : Prop :=
  node = .directory ∨ at_ = candlesName :: run ∨ at_ = manifestName :: run

section Writing

variable (run : Path) (document : CandlesDocument) (manifest : String → Manifest)

theorem mkdir_leaves (name : String) (before : Disk Content) :
    (mkdir answers false run before).2 (name :: run) = before (name :: run) :=
  adds_elsewhere _ _ _ (mkdir_adds answers false run run (List.suffix_refl run) before) _
    (fun _ made => name_outside run name made.1)

theorem write_leaves (file : EvidenceFile) (path other : Path) (different : other ≠ path) (content : Content)
    (before : Disk Content) : (writePrivateJson answers file path content before).2 other = before other :=
  adds_elsewhere _ _ _ (write_private_adds answers file path content before) other (fun _ same => different same)

theorem sha256_leaves (path : Path) (before : Disk Content) :
    (sha256File answers codec.sha256 path before).2 = before :=
  sha256_keeps answers (fun disk => disk) codec.sha256 path before

theorem write_evidence_adds :
    Attempt.Evolves (Adds (EvidenceOf run)) (writeEvidence answers codec run document manifest) := by
  apply Attempt.evolves_bind _ (adds_trans _) _
  · exact Attempt.evolves_wider _ _ (adds_wider _ _ (fun _ _ made => .inl made.2)) _
      (mkdir_adds answers false run run (List.suffix_refl run))
  intro _
  apply Attempt.evolves_bind _ (adds_trans _) _
  · exact Attempt.evolves_wider _ _ (adds_wider _ _ (fun _ _ same => .inr (.inl same))) _
      (write_private_adds answers .candles _ _)
  intro _
  apply Attempt.evolves_bind _ (adds_trans _) _
  · intro before
    rw [sha256_leaves]
    exact adds_refl _ before
  intro digest
  apply Attempt.evolves_bind _ (adds_trans _) _
  · exact Attempt.evolves_wider _ _ (adds_wider _ _ (fun _ _ same => .inr (.inr same))) _
      (write_private_adds answers .manifest _ _)
  intro _
  exact adds_refl _

structure Recorded (disk : Disk Content) : Prop where
  candles : disk (candlesName :: run) = some (.file 0o600 (codec.candles document))
  sealed : disk (manifestName :: run) =
    some (.file 0o600 (codec.manifest (manifest (codec.sha256 (codec.candles document)))))

-- What an export leaves: no manifest that was not there, or whole candles and,
-- if it returned, a new and whole manifest with their digest.
structure Left (before : Disk Content) (result : Except OsError Path) (after : Disk Content) : Prop where
  whole : after (manifestName :: run) ≠ before (manifestName :: run) →
    after (candlesName :: run) = some (.file 0o600 (codec.candles document))
  returned : ∀ path, result = .ok path →
    path = manifestName :: run ∧ before path = none ∧ Recorded codec run document manifest after

theorem left_raised (before after : Disk Content) (error : OsError)
    (same : after (manifestName :: run) = before (manifestName :: run)) :
    Left codec run document manifest before (.error error) after where
  whole changed := absurd same changed
  returned path returned := by cases returned

theorem manifest_left (before middle : Disk Content) (content : Content)
    (expected : content = codec.manifest (manifest (codec.sha256 (codec.candles document))))
    (same : middle (manifestName :: run) = before (manifestName :: run))
    (candles : middle (candlesName :: run) = some (.file 0o600 (codec.candles document))) :
    Left codec run document manifest before
      ((writePrivateJson answers .manifest (manifestName :: run) content >>= fun _ =>
        pure (manifestName :: run) : EvidenceAction Content Path) middle).1
      ((writePrivateJson answers .manifest (manifestName :: run) content >>= fun _ =>
        pure (manifestName :: run) : EvidenceAction Content Path) middle).2 := by
  have kept := write_leaves answers .manifest (manifestName :: run) _ (names_apart run run).symm content middle
  have complete := write_private_complete answers .manifest (manifestName :: run) content middle
  rw [Attempt.bind_run]
  cases ran : writePrivateJson answers .manifest (manifestName :: run) content middle with
  | mk result after =>
      rw [ran] at kept
      cases result with
      | error error =>
          exact { whole := fun _ => kept.trans candles, returned := fun path done => by cases done }
      | ok done =>
          obtain ⟨absent, written⟩ := complete after ran
          refine { whole := fun _ => kept.trans candles, returned := ?_ }
          intro path done
          cases done
          exact ⟨rfl, same.symm.trans absent, kept.trans candles, written.trans (by rw [expected])⟩

theorem write_evidence_left (before : Disk Content) :
    Left codec run document manifest before (writeEvidence answers codec run document manifest before).1
      (writeEvidence answers codec run document manifest before).2 := by
  have made := mkdir_leaves answers run manifestName before
  rw [writeEvidence, Attempt.bind_run]
  cases entered : mkdir answers false run before with
  | mk result first =>
      rw [entered] at made
      cases result with
      | error error => exact left_raised codec run document manifest before first error made
      | ok done =>
          dsimp only at made ⊢
          have kept := write_leaves answers .candles (candlesName :: run) _ (names_apart run run)
            (codec.candles document) first
          have complete := write_private_complete answers .candles (candlesName :: run) (codec.candles document) first
          rw [Attempt.bind_run]
          cases wrote : writePrivateJson answers .candles (candlesName :: run) (codec.candles document) first with
          | mk result second =>
              rw [wrote] at kept
              cases result with
              | error error => exact left_raised codec run document manifest before second error (kept.trans made)
              | ok done =>
                  have candles := (complete second wrote).2
                  have same := sha256_leaves answers codec (candlesName :: run) second
                  dsimp only
                  rw [Attempt.bind_run]
                  cases ran : sha256File answers codec.sha256 (candlesName :: run) second with
                  | mk result third =>
                      rw [ran] at same
                      dsimp only at same
                      cases result with
                      | error error =>
                          rw [same]
                          exact left_raised codec run document manifest before second error (kept.trans made)
                      | ok digest =>
                          have hashed : digest = codec.sha256 (codec.candles document) :=
                            sha256_returned answers codec.sha256 _ _ _ second third digest candles ran
                          rw [same]
                          exact manifest_left answers codec run document manifest before second _ (by rw [hashed])
                            (kept.trans made) candles

end Writing

-- No manifest without the candles it is about.
def Sound (disk : Disk Content) : Prop :=
  ∀ run mode content, disk (manifestName :: run) = some (.file mode content) →
    ∃ document, disk (candlesName :: run) = some (.file 0o600 (codec.candles document))

theorem left_sound (run : Path) (document : CandlesDocument) (manifest : String → Manifest)
    (before after : Disk Content) (result : Except OsError Path) (adds : Adds (EvidenceOf run) before after)
    (left : Left codec run document manifest before result after) (sound : Sound codec before) :
    Sound codec after := by
  intro other mode content present
  cases adds (manifestName :: other) with
  | inl same =>
      obtain ⟨written, candles⟩ := sound other mode content (same.symm.trans present)
      refine ⟨written, ?_⟩
      rw [adds_present _ before after adds _ (by rw [candles]; exact Option.some_ne_none _), candles]
  | inr added =>
      obtain ⟨absent, node, put, evidence⟩ := added
      rw [present] at put
      cases put
      cases evidence with
      | inl directory => cases directory
      | inr file =>
          cases file with
          | inl candles => exact absurd candles (names_apart other run)
          | inr equal =>
              cases equal
              exact ⟨document, left.whole (by rw [present, absent]; exact Option.some_ne_none _)⟩

structure ExportCall (ε Content : Type) where
  request : ExportRequest
  gathered : Except ε (SessionHistoryV1 × SessionHistoryV1)
  answers : EvidenceAnswers Content

variable (stamp : Datetime → String)

def exportAll : List (ExportCall ε Content) → Disk Content →
    List (ExportCall ε Content × Except (ExportError ε) Path) × Disk Content
  | [], disk => ([], disk)
  | call :: rest, disk =>
      let first := exportSessionHistory unicode call.request call.answers codec stamp call.gathered disk
      let others := exportAll rest first.2
      ((call, first.1) :: others.1, others.2)

def Evidence (call : ExportCall ε Content) (path : Path) (disk : Disk Content) : Prop :=
  ∃ document regular extended, call.gathered = .ok (regular, extended) ∧
    gatherCandles unicode call.request call.gathered = .ok document ∧
    path = manifestName :: runDirectory call.request stamp document ∧
    Recorded codec (runDirectory call.request stamp document) document (manifestOf regular extended document) disk

theorem evidence_stays (call : ExportCall ε Content) (path : Path) (before after : Disk Content)
    (allowed : Path → Node Content → Prop) (adds : Adds allowed before after)
    (evidence : Evidence unicode codec stamp call path before) : Evidence unicode codec stamp call path after := by
  obtain ⟨document, regular, extended, gathered, done, at_, recorded⟩ := evidence
  refine ⟨document, regular, extended, gathered, done, at_, ?_, ?_⟩
  · rw [adds_present _ before after adds _ (by rw [recorded.candles]; exact Option.some_ne_none _), recorded.candles]
  · rw [adds_present _ before after adds _ (by rw [recorded.sealed]; exact Option.some_ne_none _), recorded.sealed]

structure Stepped (call : ExportCall ε Content) (before : Disk Content) (result : Except (ExportError ε) Path)
    (after : Disk Content) : Prop where
  adds : Adds (fun _ _ => True) before after
  sound : Sound codec before → Sound codec after
  returned : ∀ path, result = .ok path → before path = none ∧ Evidence unicode codec stamp call path after

theorem stepped_raised (call : ExportCall ε Content) (disk : Disk Content) (error : ExportError ε) :
    Stepped unicode codec stamp call disk (.error error) disk where
  adds := adds_refl _ disk
  sound sound := sound
  returned path returned := by cases returned

theorem export_refused (gathered : Except ε (SessionHistoryV1 × SessionHistoryV1)) (disk : Disk Content)
    (error : ExportError ε) (refused : gatherCandles unicode request gathered = .error error) :
    exportSessionHistory unicode request answers codec stamp gathered disk = (.error error, disk) := by
  simp [exportSessionHistory, refused]

theorem export_unanswered (error : ε) (disk : Disk Content) :
    ∃ raised, exportSessionHistory unicode request answers codec stamp (.error error) disk = (.error raised, disk) := by
  cases done : gatherCandles unicode request (.error error) with
  | error other => exact ⟨other, export_refused unicode request answers codec stamp _ disk other done⟩
  | ok document => exact ⟨.client error, by simp [exportSessionHistory, done]⟩

theorem export_written (regular extended : SessionHistoryV1) (document : CandlesDocument) (disk : Disk Content)
    (done : gatherCandles (ε := ε) unicode request (.ok (regular, extended)) = .ok document) :
    exportSessionHistory (ε := ε) unicode request answers codec stamp (.ok (regular, extended)) disk =
      ((writeEvidence answers codec (runDirectory request stamp document) document
          (manifestOf regular extended document) disk).1.mapError .os,
        (writeEvidence answers codec (runDirectory request stamp document) document
          (manifestOf regular extended document) disk).2) := by
  simp only [exportSessionHistory, done]
  cases writeEvidence answers codec (runDirectory request stamp document) document
      (manifestOf regular extended document) disk with
  | mk result after =>
      cases result with
      | ok path => rfl
      | error error => rfl

theorem export_stepped (call : ExportCall ε Content) (before : Disk Content) :
    Stepped unicode codec stamp call before
      (exportSessionHistory unicode call.request call.answers codec stamp call.gathered before).1
      (exportSessionHistory unicode call.request call.answers codec stamp call.gathered before).2 := by
  cases gathered : call.gathered with
  | error error =>
      obtain ⟨raised, same⟩ := export_unanswered unicode call.request call.answers codec stamp error before
      rw [same]
      exact stepped_raised unicode codec stamp call before raised
  | ok histories =>
      obtain ⟨regular, extended⟩ := histories
      cases done : gatherCandles (ε := ε) unicode call.request (.ok (regular, extended)) with
      | error error =>
          rw [export_refused unicode call.request call.answers codec stamp _ before error done]
          exact stepped_raised unicode codec stamp call before error
      | ok document =>
          rw [export_written unicode call.request call.answers codec stamp regular extended document before done]
          have adds := write_evidence_adds call.answers codec (runDirectory call.request stamp document) document
            (manifestOf regular extended document) before
          have left := write_evidence_left call.answers codec (runDirectory call.request stamp document) document
            (manifestOf regular extended document) before
          refine { adds := ?_, sound := left_sound codec _ _ _ before _ _ adds left, returned := ?_ }
          · exact adds_wider _ _ (fun _ _ _ => trivial) _ _ adds
          · intro path returned
            cases wrote : (writeEvidence call.answers codec (runDirectory call.request stamp document) document
                (manifestOf regular extended document) before).1 with
            | error error =>
                rw [wrote] at returned
                cases returned
            | ok written =>
                rw [wrote] at returned
                cases returned
                obtain ⟨at_, absent, recorded⟩ := left.returned path wrote
                exact ⟨absent, document, regular, extended, gathered, gathered.symm ▸ done, at_, recorded⟩

def exportedPaths (calls : List (ExportCall ε Content × Except (ExportError ε) Path)) : List Path :=
  calls.filterMap (fun call => call.2.toOption)

structure Kept (calls : List (ExportCall ε Content)) (disk : Disk Content) : Prop where
  adds : Adds (fun _ _ => True) disk (exportAll unicode codec stamp calls disk).2
  sound : Sound codec disk → Sound codec (exportAll unicode codec stamp calls disk).2
  recorded : ∀ call path, (call, .ok path) ∈ (exportAll unicode codec stamp calls disk).1 →
    Evidence unicode codec stamp call path (exportAll unicode codec stamp calls disk).2
  fresh : ∀ path ∈ exportedPaths (exportAll unicode codec stamp calls disk).1, disk path = none
  once : (exportedPaths (exportAll unicode codec stamp calls disk).1).Nodup

theorem exported_paths_cons (call : ExportCall ε Content) (result : Except (ExportError ε) Path)
    (rest : List (ExportCall ε Content × Except (ExportError ε) Path)) :
    exportedPaths ((call, result) :: rest) = result.toOption.toList ++ exportedPaths rest := by
  cases result with
  | error error => rfl
  | ok path => rfl

theorem exports_kept (calls : List (ExportCall ε Content)) (disk : Disk Content) :
    Kept unicode codec stamp calls disk := by
  induction calls generalizing disk with
  | nil =>
      exact {
        adds := adds_refl _ disk
        sound := id
        recorded := fun _ _ member => by cases member
        fresh := fun _ member => by cases member
        once := List.nodup_nil }
  | cons call rest ih =>
      have one := export_stepped unicode codec stamp call disk
      have others := ih (exportSessionHistory unicode call.request call.answers codec stamp call.gathered disk).2
      have earlier : ∀ path ∈ (exportSessionHistory unicode call.request call.answers codec stamp call.gathered
          disk).1.toOption, disk path = none ∧
            Evidence unicode codec stamp call path
              (exportSessionHistory unicode call.request call.answers codec stamp call.gathered disk).2 := by
        intro path member
        cases result : (exportSessionHistory unicode call.request call.answers codec stamp call.gathered disk).1 with
        | error error =>
            rw [result] at member
            cases member
        | ok given =>
            rw [result] at member
            cases member
            exact one.returned path result
      refine {
        adds := adds_trans _ _ _ _ one.adds others.adds
        sound := others.sound ∘ one.sound
        recorded := ?_
        fresh := ?_
        once := ?_ }
      · intro done path member
        cases List.mem_cons.mp member with
        | inl head =>
            obtain ⟨same, result⟩ := Prod.mk.inj head
            rw [same]
            exact evidence_stays unicode codec stamp call path _ _ _ others.adds (one.returned path result.symm).2
        | inr later => exact others.recorded done path later
      · intro path member
        rw [exportAll, exported_paths_cons, List.mem_append] at member
        cases member with
        | inl first => exact (earlier path (Option.mem_toList.mp first)).1
        | inr later => exact adds_absent _ _ _ one.adds path (others.fresh path later)
      · rw [exportAll, exported_paths_cons]
        refine List.nodup_append.mpr ⟨?_, others.once, ?_⟩
        · cases (exportSessionHistory unicode call.request call.answers codec stamp call.gathered
            disk).1.toOption with
          | none => exact List.nodup_nil
          | some path => exact List.nodup_singleton path
        · intro path first other later same
          obtain ⟨document, regular, extended, _, _, at_, recorded⟩ := (earlier path (Option.mem_toList.mp first)).2
          have absent := others.fresh other later
          rw [← same, at_, recorded.sealed] at absent
          cases absent

-- Over any calls one after another, whatever of the file system fails in them:
-- nothing on the disk is changed, no manifest is there without the whole
-- candles, no path is given out twice, and what a call that returned recorded is
-- there at the end, with the digest of the candles in the manifest.
theorem exports_keep_evidence (calls : List (ExportCall ε Content)) (disk : Disk Content) :
    (∀ path, disk path ≠ none → (exportAll unicode codec stamp calls disk).2 path = disk path) ∧
      (Sound codec disk → Sound codec (exportAll unicode codec stamp calls disk).2) ∧
      (∀ call path, (call, .ok path) ∈ (exportAll unicode codec stamp calls disk).1 →
        Evidence unicode codec stamp call path (exportAll unicode codec stamp calls disk).2) ∧
      (exportedPaths (exportAll unicode codec stamp calls disk).1).Nodup := by
  have kept := exports_kept unicode codec stamp calls disk
  exact ⟨adds_present _ _ _ kept.adds, kept.sound, kept.recorded, kept.once⟩

end Files

section Sample

def earlyCandle : PyValue :=
  .dict [(.str "datetime", .int 1786536000000), (.str "open", .float (.finite 11)),
    (.str "high", .float (.finite 12)), (.str "low", .float (.finite 10)),
    (.str "close", .float (.finite 11)), (.str "volume", .int 100)]

def sampleDay : Date := Date.ofCivil 2026 8 12

def sampleItems : List PyValue := [sampleCandle (.finite 11), earlyCandle, sampleCandle (.finite 10)]

def sampleRequest : ExportRequest := ⟨"aapl ", sampleDay, [], true, 1786543260000000⟩

def sampleHistory (session : Session) : SessionHistoryV1 :=
  sessionHistory "AAPL" sampleDay session
    ((wellFormedBars noLiterals sampleItems).filter (belongs summer sampleDay session)) 0 1786543260000000
    (.finite 86400)

theorem sample_history (session : Session) :
    normalizeSessionHistory noLiterals summer "AAPL" sampleDay session (.list sampleItems) 1786543260000000
      (.finite 86400) = .ok (sampleHistory session) := by
  cases session with
  | regular => decide +kernel
  | extended => decide +kernel

theorem export_merges_session_sample :
    ∃ document, gatherCandles (ε := Empty) asciiUnicode sampleRequest
        (.ok (sampleHistory .regular, sampleHistory .extended)) = .ok document ∧
      document.candles.Pairwise (fun earlier later => earlier.timestamp < later.timestamp) ∧
      document.candles.length = 2 := by
  have done : gatherCandles (ε := Empty) asciiUnicode sampleRequest
      (.ok (sampleHistory .regular, sampleHistory .extended)) =
        .ok ⟨ticker asciiUnicode "aapl ", sampleDay, 1786543260000000,
          exportedCandles (sampleHistory .regular) (sampleHistory .extended)⟩ := by decide +kernel
  have merged := export_merges_session noLiterals summer asciiUnicode sampleRequest sampleItems sampleItems "AAPL"
    (.finite 86400) 1786543260000000 1786543260000000 (sampleHistory .regular) (sampleHistory .extended)
    (sample_history .regular) (sample_history .extended) _ done
  refine ⟨_, done, merged.2.1, ?_⟩
  decide +kernel

def sampleCodec : EvidenceCodec String where
  candles document := document.symbol
  manifest manifest := manifest.candlesSha256
  sha256 text := text

def calm : EvidenceAnswers String where
  fails _ := false
  createdMode := 0o644
  empty := ""
  torn _ text := text

def sampleCall : ExportCall Empty String := ⟨sampleRequest, .ok (sampleHistory .regular, sampleHistory .extended), calm⟩

-- Two calls at one instant: the second one finds the directory and writes nothing.
example :
    (exportAll asciiUnicode sampleCodec (fun _ => "stamp") [sampleCall, sampleCall] (fun _ => none)).1.map
        (fun call => call.2) =
      [.ok ["manifest.json", "stamp", "2026-08-12", "AAPL"], .error (.os .exists_)] := by
  decide +kernel

end Sample

end SchwabGateway.Export
