import Mathlib.Data.List.Induction
import SearchQuery.Log.Logger
import SearchQuery.Proofs.Repetition

/-!
# Histories of the logger

The logger may be configured any number of times, with and without success, and others may add
handlers in between.  Behind each call the handlers of others are installed as before, and of the
handlers that calls installed only those of this call are left; those of earlier calls have been
closed.

Handlers of others are told apart by their numbers.  Those of calls are made anew by each call, so
that two of them may look alike; they are counted, each closing against one installation.
-/

namespace SearchQuery

namespace Handler

/-- Whether the handler writes to the error stream. -/
def isStream : Handler → Bool
  | .stream _ => true
  | _ => false

/-- Whether the handler writes to a file. -/
def isFile : Handler → Bool
  | .file .. => true
  | _ => false

theorem isOwned_of_isStream (handler : Handler) (isStream : handler.isStream = true) :
    handler.isOwned = true := by
  cases handler with
  | stream level => rfl
  | foreign number => contradiction
  | file path level => rfl

theorem isOwned_of_isFile (handler : Handler) (isFile : handler.isFile = true) :
    handler.isOwned = true := by
  cases handler with
  | file path level => rfl
  | foreign number => contradiction
  | stream level => rfl

end Handler

namespace Settings

theorem nonEmpty?_eq_some_iff {text : Option String} {path : String} :
    nonEmpty? text = some path ↔ text = some path ∧ path ≠ "" := by
  simp [nonEmpty?]

theorem nonEmpty?_eq_none_iff {text : Option String} :
    nonEmpty? text = none ↔ text = none ∨ text = some "" := by
  cases text <;> simp [nonEmpty?]

/-- The log file is the one asked for, or else that of the settings; an empty path asks for none. -/
theorem logFileFor_eq_some_iff {settings : Settings} {given : Option String} {path : String} :
    settings.logFileFor given = some path ↔
      path ≠ "" ∧ (given = some path ∨
        (given = none ∨ given = some "") ∧ settings.logFile = some path) := by
  rw [logFileFor, Option.or_eq_some_iff, nonEmpty?_eq_some_iff, nonEmpty?_eq_none_iff,
    nonEmpty?_eq_some_iff]
  tauto

end Settings

/-! ## One call -/

/-- A call that configures the logger, with the settings and the files that it meets. -/
structure LoggerCall where
  /-- The settings. -/
  settings : Settings
  /-- Whether details are asked for. -/
  verbose : Bool
  /-- Whether only warnings are asked for. -/
  quiet : Bool
  /-- The path of the log file that is asked for. -/
  path : Option String
  /-- The files. -/
  files : FileTree

namespace LoggerCall

/-- What becomes of a logger by the call. -/
def apply (call : LoggerCall) (logger : Logger) : Configured :=
  logger.configureFor call.files call.settings call.verbose call.quiet call.path

/-- The level of the call. -/
def level (call : LoggerCall) : Level := .forRun call.settings call.verbose call.quiet

/-- The path of the log file, if the call wants one. -/
def wanted? (call : LoggerCall) : Option String := call.settings.logFileFor call.path

/-- Whether the file at a path can be opened to write at its end. -/
def canOpen (call : LoggerCall) (path : String) : Bool := (call.files.append path "").isOk

/-- The path of the log file that the call opens. -/
def opened? (call : LoggerCall) : Option String := call.wanted?.filter call.canOpen

/-- The handlers that the call installs. -/
def handlers (call : LoggerCall) : List Handler :=
  .stream call.level :: (call.opened?.map (.file · .debug)).toList

variable (call : LoggerCall) (logger : Logger)

theorem opened?_eq_some_iff {path : String} :
    call.opened? = some path ↔ call.wanted? = some path ∧ call.canOpen path = true :=
  Option.filter_eq_some_iff

/-- What a call does: it opens no log file, and fails if it wants one, or it opens one. -/
theorem apply_cases :
    (call.opened? = none ∧ ∃ failure, (failure = none ↔ call.wanted? = none) ∧
      call.apply logger =
        { logger := logger.restart call.level, files := call.files
          closed := logger.handlers.filter (·.isOwned), failure }) ∨
    ∃ path files, call.opened? = some path ∧ call.apply logger =
      { logger := { (logger.restart call.level).install (.file path .debug) with level := .debug }
        files, closed := logger.handlers.filter (·.isOwned), failure := none } := by
  unfold apply Logger.configureFor Logger.configure opened? canOpen wanted?
  cases call.settings.logFileFor call.path with
  | none => exact .inl ⟨rfl, none, by simp, rfl⟩
  | some path =>
      rw [Option.filter_some]
      cases opening : call.files.append path "" with
      | error failure =>
          refine .inl ⟨rfl, some failure, by simp, ?_⟩
          simp only [opening]
          rfl
      | ok files =>
          refine .inr ⟨path, files, rfl, ?_⟩
          simp only [opening]
          rfl

theorem closed_apply : (call.apply logger).closed = logger.handlers.filter (·.isOwned) := by
  obtain ⟨-, _, -, apply_eq⟩ | ⟨_, _, -, apply_eq⟩ := call.apply_cases logger <;> rw [apply_eq]

/-- The handlers of others stay, and those of the call come behind them. -/
theorem handlers_apply :
    (call.apply logger).logger.handlers =
      logger.handlers.filter (!·.isOwned) ++ call.handlers := by
  obtain ⟨unopened, _, -, apply_eq⟩ | ⟨path, _, opened, apply_eq⟩ := call.apply_cases logger
  · rw [apply_eq, handlers, unopened]
    rfl
  · have absent : .file path .debug ∉ (logger.restart call.level).handlers := by
      simp [Logger.restart, Handler.isOwned]
    rw [apply_eq, handlers, opened, Logger.install, if_neg absent]
    simp [Logger.restart]

/-- A call succeeds unless it wants a log file that it cannot open. -/
theorem failure_apply_eq_none_iff :
    (call.apply logger).failure = none ↔
      ∀ path, call.wanted? = some path → call.canOpen path = true := by
  obtain ⟨unopened, failure, failure_iff, apply_eq⟩ | ⟨path, _, opened, apply_eq⟩ :=
    call.apply_cases logger
  · rw [apply_eq, failure_iff]
    constructor
    · simp +contextual
    · intro opens
      cases wanted : call.wanted? with
      | none => rfl
      | some path =>
          have opened := call.opened?_eq_some_iff.mpr ⟨wanted, opens path wanted⟩
          rw [unopened] at opened
          contradiction
  · obtain ⟨wanted, opens⟩ := call.opened?_eq_some_iff.mp opened
    simp [apply_eq, wanted, opens]

/-- A log file takes every detail, for which the logger has to let it through. -/
theorem level_apply :
    (call.apply logger).logger.level = if call.opened?.isSome then .debug else call.level := by
  obtain ⟨unopened, _, -, apply_eq⟩ | ⟨_, _, opened, apply_eq⟩ := call.apply_cases logger
  · rw [apply_eq, unopened]
    rfl
  · rw [apply_eq, opened]
    rfl

/-- A file handler of the call takes every detail for the file that is opened. -/
theorem file_mem_handlers_iff {path : String} {level : Level} :
    .file path level ∈ call.handlers ↔ level = .debug ∧ call.opened? = some path := by
  rw [handlers]
  cases call.opened? <;> simp [and_comm, eq_comm]

theorem isOwned_of_mem_handlers {handler : Handler} (member : handler ∈ call.handlers) :
    handler.isOwned = true := by
  cases handler with
  | foreign number =>
      rw [handlers] at member
      cases opened : call.opened? <;> simp [opened] at member
  | stream level => rfl
  | file path level => rfl

/-- The log file that a call opens is the one that it wants, if it succeeds. -/
theorem opened?_eq_some_iff_of_success {path : String} :
    call.opened? = some path ↔
      (call.apply logger).failure = none ∧ call.wanted? = some path := by
  rw [opened?_eq_some_iff, failure_apply_eq_none_iff]
  constructor
  · rintro ⟨wanted, opens⟩
    refine ⟨fun other other_wanted => ?_, wanted⟩
    obtain rfl := Option.some.inj (wanted.symm.trans other_wanted)
    exact opens
  · rintro ⟨opens, wanted⟩
    exact ⟨wanted, opens path wanted⟩

/-- The handlers of others are those from before. -/
theorem filter_foreign_apply :
    (call.apply logger).logger.handlers.filter (!·.isOwned) =
      logger.handlers.filter (!·.isOwned) := by
  have owned : call.handlers.filter (!·.isOwned) = [] := by
    rw [List.filter_eq_nil_iff]
    intro handler member
    simp [call.isOwned_of_mem_handlers member]
  rw [handlers_apply, List.filter_append, owned, List.append_nil, List.filter_filter]
  simp

/-- The handlers installed by calls are those of this call. -/
theorem filter_owned_apply :
    (call.apply logger).logger.handlers.filter (·.isOwned) = call.handlers := by
  have owned : call.handlers.filter (·.isOwned) = call.handlers := by
    rw [List.filter_eq_self]
    exact fun handler member => call.isOwned_of_mem_handlers member
  rw [handlers_apply, List.filter_append, owned, List.filter_filter]
  simp

/-- Of a kind of handlers that only calls install, those of this call are installed. -/
theorem filter_apply {kind : Handler → Bool}
    (owned : ∀ handler, kind handler = true → handler.isOwned = true) :
    (call.apply logger).logger.handlers.filter kind = call.handlers.filter kind := by
  have of_kind : ∀ handlers : List Handler,
      handlers.filter kind = (handlers.filter (·.isOwned)).filter kind := by
    intro handlers
    rw [List.filter_filter]
    refine List.filter_congr fun handler _ => ?_
    cases of_kind : kind handler with
    | false => rfl
    | true => simp [owned handler of_kind]
  rw [of_kind, filter_owned_apply]

/-- A file is written to exactly if the call wants it and succeeds. -/
theorem file_mem_apply_iff {path : String} {level : Level} :
    .file path level ∈ (call.apply logger).logger.handlers ↔
      level = .debug ∧ (call.apply logger).failure = none ∧ call.wanted? = some path := by
  have owned_iff : .file path level ∈ (call.apply logger).logger.handlers.filter (·.isOwned) ↔
      .file path level ∈ (call.apply logger).logger.handlers := by
    simp [Handler.isOwned]
  rw [← owned_iff, filter_owned_apply, file_mem_handlers_iff,
    call.opened?_eq_some_iff_of_success logger]

theorem filter_isStream_handlers :
    call.handlers.filter Handler.isStream = [.stream call.level] := by
  rw [handlers]
  cases call.opened? <;> rfl

theorem filter_isFile_handlers :
    call.handlers.filter Handler.isFile = (call.opened?.map (.file · .debug)).toList := by
  rw [handlers]
  cases call.opened? <;> rfl

end LoggerCall

/-! ## Histories -/

/-- What happens to the logger. -/
inductive LoggerChange where
  /-- Others add a handler. -/
  | addition (number : Nat)
  /-- The logger is configured. -/
  | configuration (call : LoggerCall)

namespace LoggerChange

/-- The handler that others add. -/
def added? : LoggerChange → Option Handler
  | .addition number => some (.foreign number)
  | .configuration _ => none

/-- The handlers that a call installs. -/
def installed : LoggerChange → List Handler
  | .addition _ => []
  | .configuration call => call.handlers

end LoggerChange

/-- A logger in use. -/
structure LoggerInUse where
  /-- The logger. -/
  logger : Logger
  /-- The handlers that calls have closed, in the order in which they closed them. -/
  closed : List Handler

namespace LoggerInUse

/-- The logger before anything happens. -/
def initial : LoggerInUse := { logger := .initial, closed := [] }

/-- The logger behind a change. -/
def apply (use : LoggerInUse) : LoggerChange → LoggerInUse
  | .addition number => { use with logger := use.logger.install (.foreign number) }
  | .configuration call =>
      let configured := call.apply use.logger
      { logger := configured.logger, closed := use.closed ++ configured.closed }

/-- The logger to which some changes lead. -/
def history (changes : List LoggerChange) : LoggerInUse := changes.foldl apply initial

/-- Where the handlers are that were added and installed by some changes. -/
structure Accounts (changes : List LoggerChange) (use : LoggerInUse) : Prop where
  /-- The handlers of others are installed in the order in which they were first added. -/
  foreign_eq : use.logger.handlers.filter (!·.isOwned) =
    (changes.filterMap LoggerChange.added?).eraseDups
  /-- Of the handlers that calls installed, the first are closed and the others still installed. -/
  owned_eq : use.closed ++ use.logger.handlers.filter (·.isOwned) =
    changes.flatMap LoggerChange.installed

namespace Accounts

variable {changes : List LoggerChange} {use : LoggerInUse}

theorem foreign_mem_iff (accounts : Accounts changes use) {number : Nat} :
    .foreign number ∈ use.logger.handlers ↔
      .foreign number ∈ changes.filterMap LoggerChange.added? := by
  have filtered : .foreign number ∈ use.logger.handlers.filter (!·.isOwned) ↔
      .foreign number ∈ use.logger.handlers := by
    simp [Handler.isOwned]
  rw [← filtered, accounts.foreign_eq, List.mem_eraseDups]

theorem addition (accounts : Accounts changes use) (number : Nat) :
    Accounts (changes ++ [.addition number]) (use.apply (.addition number)) := by
  have added_eq : (changes ++ [LoggerChange.addition number]).filterMap LoggerChange.added? =
      changes.filterMap LoggerChange.added? ++ [.foreign number] := by
    simp [LoggerChange.added?]
  have installed_eq : (changes ++ [LoggerChange.addition number]).flatMap LoggerChange.installed =
      changes.flatMap LoggerChange.installed := by
    simp [LoggerChange.installed]
  rw [apply, Logger.install]
  split
  case isTrue member =>
    constructor
    · rw [added_eq, eraseDups_concat, if_pos (accounts.foreign_mem_iff.mp member),
        accounts.foreign_eq]
    · rw [installed_eq, accounts.owned_eq]
  case isFalse missing =>
    constructor
    · rw [added_eq, eraseDups_concat, if_neg (accounts.foreign_mem_iff.not.mp missing),
        ← accounts.foreign_eq]
      simp [Handler.isOwned]
    · rw [installed_eq, ← accounts.owned_eq]
      simp [Handler.isOwned]

theorem configuration (accounts : Accounts changes use) (call : LoggerCall) :
    Accounts (changes ++ [.configuration call]) (use.apply (.configuration call)) := by
  constructor
  · rw [apply, call.filter_foreign_apply, accounts.foreign_eq]
    simp [List.filterMap_cons, LoggerChange.added?]
  · rw [apply, call.filter_owned_apply, call.closed_apply, accounts.owned_eq]
    simp [LoggerChange.installed]

end Accounts

theorem accounts_history (changes : List LoggerChange) : Accounts changes (history changes) := by
  induction changes using List.reverseRecOn with
  | nil => exact ⟨rfl, rfl⟩
  | append_singleton changes change induction =>
      rw [history, List.foldl_concat]
      cases change with
      | addition number => exact induction.addition number
      | configuration call => exact induction.configuration call

/-- What is installed and what is closed once a call has configured a logger in use, whether the
call fails or not. -/
structure Reconfigured (changes : List LoggerChange) (call : LoggerCall) (before : LoggerInUse)
    (after : Configured) : Prop where
  /-- The call fails exactly if it wants a log file that cannot be opened. -/
  success_iff : after.failure = none ↔
    ∀ path, call.settings.logFileFor call.path = some path →
      (call.files.append path "").isOk = true
  /-- The handlers of others are installed in the order in which they were first added. -/
  foreign_eq : after.logger.handlers.filter (!·.isOwned) =
    (changes.filterMap LoggerChange.added?).eraseDups
  /-- One handler writes to the error stream, from the level of the call on. -/
  stream_eq : after.logger.handlers.filter Handler.isStream =
    [.stream (.forRun call.settings call.verbose call.quiet)]
  /-- Of the handlers that calls installed, those of this call are installed and no others. -/
  owned_eq : after.logger.handlers.filter (·.isOwned) = call.handlers
  /-- Each handler that an earlier call installed has been closed once. -/
  closed_eq : before.closed ++ after.closed = changes.flatMap LoggerChange.installed
  /-- A handler writes every detail to a file exactly if the call succeeds and the file is the one
  asked for, or else that of the settings. -/
  file_mem_iff : ∀ path level, .file path level ∈ after.logger.handlers ↔
    level = .debug ∧ after.failure = none ∧ path ≠ "" ∧ (call.path = some path ∨
      (call.path = none ∨ call.path = some "") ∧ call.settings.logFile = some path)
  /-- There is at most one such handler. -/
  count_file_le : after.logger.handlers.countP Handler.isFile ≤ 1
  /-- With it the logger handles every detail, and without it what the call asks for. -/
  level_eq : after.logger.level =
    if ∃ handler ∈ after.logger.handlers, handler.isFile then .debug
    else .forRun call.settings call.verbose call.quiet

/-- Whatever has happened to the logger, a call leaves the handlers of others as they are, and of
the handlers that calls installed only its own: one for the error stream, and one for the log file
if the call wants one and succeeds.  All others are closed. -/
theorem reconfigured_apply (changes : List LoggerChange) (call : LoggerCall) :
    Reconfigured changes call (history changes) (call.apply (history changes).logger) := by
  have accounts := accounts_history changes
  have streams := call.filter_apply (history changes).logger Handler.isOwned_of_isStream
  have files := call.filter_apply (history changes).logger Handler.isOwned_of_isFile
  rw [call.filter_isStream_handlers] at streams
  rw [call.filter_isFile_handlers] at files
  constructor
  · exact call.failure_apply_eq_none_iff _
  · rw [call.filter_foreign_apply, accounts.foreign_eq]
  · exact streams
  · exact call.filter_owned_apply _
  · rw [call.closed_apply, accounts.owned_eq]
  · intro path level
    rw [← Settings.logFileFor_eq_some_iff]
    exact call.file_mem_apply_iff _
  · rw [List.countP_eq_length_filter, files]
    exact Option.length_toList_le
  · have written_iff : call.opened?.isSome ↔
        ∃ handler ∈ (call.apply (history changes).logger).logger.handlers, handler.isFile := by
      simp only [← List.mem_filter, files]
      cases call.opened? <;> simp
    rw [call.level_apply]
    exact if_congr written_iff rfl rfl

end LoggerInUse

end SearchQuery
