/-!
# Reply codes

The three-digit codes that open a reply.

* `Category`: what the first digit says about the outcome.
* `Category.ofCode?`: the category of a code from 100 to 599.
* `NamedCode`: the codes that have a name of their own.
-/

namespace FileTransfer.Reply
set_option autoImplicit false

/-- What the first digit of a code says. -/
inductive Category where
  | positivePreliminary | positiveCompletion | positiveIntermediate
  | transientNegative | permanentNegative
  deriving DecidableEq, Repr

namespace Category

def digit : Category → Nat
  | .positivePreliminary => 1
  | .positiveCompletion => 2
  | .positiveIntermediate => 3
  | .transientNegative => 4
  | .permanentNegative => 5

def label : Category → String
  | .positivePreliminary => "POSITIVE_PRELIMINARY"
  | .positiveCompletion => "POSITIVE_COMPLETION"
  | .positiveIntermediate => "POSITIVE_INTERMEDIATE"
  | .transientNegative => "TRANSIENT_NEGATIVE"
  | .permanentNegative => "PERMANENT_NEGATIVE"

def all : List Category :=
  [.positivePreliminary, .positiveCompletion, .positiveIntermediate, .transientNegative,
   .permanentNegative]

/-- Whether a number's hundreds are those of the category; any number may be asked about. -/
def covers (c : Category) (code : Int) : Bool := code / 100 = c.digit

def ofDigit? (digit : Int) : Option Category := all.find? fun c => (c.digit : Int) = digit

/-- The category of a code; only the numbers from 100 to 599 are codes. -/
def ofCode? (code : Int) : Option Category :=
  if 100 ≤ code ∧ code ≤ 599 then ofDigit? (code / 100) else none

end Category

inductive NamedCode where
  | restartMarker | readyInNMinutes | alreadyOpen | fileStatusOk
  | commandOk | commandNotImplementedSuperfluous | systemStatus | directoryStatus | fileStatus
  | helpMessage | systemType | serviceReady | closingControlConnection | dataConnectionOpen
  | closingDataConnection | enteringPassiveMode | enteringExtendedPassiveMode | userLoggedIn
  | authOkNoDataNeeded | fileActionOk | pathCreated
  | needPassword | needAccount | fileActionPending
  | serviceNotAvailable | cantOpenDataConnection | connectionClosed | transientFileError
  | localError | outOfSpace
  | commandSyntaxError | parameterSyntaxError | commandNotImplemented | badCommandSequence
  | commandNotImplementedForParameter | notLoggedIn | needAccountToStore | fileUnavailable
  | pageTypeUnknown | exceededStorageAllocation | badFileName
  deriving DecidableEq, Repr

namespace NamedCode

def number : NamedCode → Nat
  | .restartMarker => 110
  | .readyInNMinutes => 120
  | .alreadyOpen => 125
  | .fileStatusOk => 150
  | .commandOk => 200
  | .commandNotImplementedSuperfluous => 202
  | .systemStatus => 211
  | .directoryStatus => 212
  | .fileStatus => 213
  | .helpMessage => 214
  | .systemType => 215
  | .serviceReady => 220
  | .closingControlConnection => 221
  | .dataConnectionOpen => 225
  | .closingDataConnection => 226
  | .enteringPassiveMode => 227
  | .enteringExtendedPassiveMode => 229
  | .userLoggedIn => 230
  | .authOkNoDataNeeded => 234
  | .fileActionOk => 250
  | .pathCreated => 257
  | .needPassword => 331
  | .needAccount => 332
  | .fileActionPending => 350
  | .serviceNotAvailable => 421
  | .cantOpenDataConnection => 425
  | .connectionClosed => 426
  | .transientFileError => 450
  | .localError => 451
  | .outOfSpace => 452
  | .commandSyntaxError => 500
  | .parameterSyntaxError => 501
  | .commandNotImplemented => 502
  | .badCommandSequence => 503
  | .commandNotImplementedForParameter => 504
  | .notLoggedIn => 530
  | .needAccountToStore => 532
  | .fileUnavailable => 550
  | .pageTypeUnknown => 551
  | .exceededStorageAllocation => 552
  | .badFileName => 553

def label : NamedCode → String
  | .restartMarker => "RESTART_MARKER"
  | .readyInNMinutes => "READY_IN_N_MINUTES"
  | .alreadyOpen => "ALREADY_OPEN"
  | .fileStatusOk => "FILE_STATUS_OK"
  | .commandOk => "COMMAND_OK"
  | .commandNotImplementedSuperfluous => "COMMAND_NOT_IMPLEMENTED_SUPERFLUOUS"
  | .systemStatus => "SYSTEM_STATUS"
  | .directoryStatus => "DIRECTORY_STATUS"
  | .fileStatus => "FILE_STATUS"
  | .helpMessage => "HELP_MESSAGE"
  | .systemType => "SYSTEM_TYPE"
  | .serviceReady => "SERVICE_READY"
  | .closingControlConnection => "CLOSING_CONTROL_CONNECTION"
  | .dataConnectionOpen => "DATA_CONNECTION_OPEN"
  | .closingDataConnection => "CLOSING_DATA_CONNECTION"
  | .enteringPassiveMode => "ENTERING_PASSIVE_MODE"
  | .enteringExtendedPassiveMode => "ENTERING_EXTENDED_PASSIVE_MODE"
  | .userLoggedIn => "USER_LOGGED_IN"
  | .authOkNoDataNeeded => "AUTH_OK_NO_DATA_NEEDED"
  | .fileActionOk => "FILE_ACTION_OK"
  | .pathCreated => "PATH_CREATED"
  | .needPassword => "NEED_PASSWORD"
  | .needAccount => "NEED_ACCOUNT"
  | .fileActionPending => "FILE_ACTION_PENDING"
  | .serviceNotAvailable => "SERVICE_NOT_AVAILABLE"
  | .cantOpenDataConnection => "CANT_OPEN_DATA_CONNECTION"
  | .connectionClosed => "CONNECTION_CLOSED"
  | .transientFileError => "TRANSIENT_FILE_ERROR"
  | .localError => "LOCAL_ERROR"
  | .outOfSpace => "OUT_OF_SPACE"
  | .commandSyntaxError => "COMMAND_SYNTAX_ERROR"
  | .parameterSyntaxError => "PARAMETER_SYNTAX_ERROR"
  | .commandNotImplemented => "COMMAND_NOT_IMPLEMENTED"
  | .badCommandSequence => "BAD_COMMAND_SEQUENCE"
  | .commandNotImplementedForParameter => "COMMAND_NOT_IMPLEMENTED_FOR_PARAMETER"
  | .notLoggedIn => "NOT_LOGGED_IN"
  | .needAccountToStore => "NEED_ACCOUNT_TO_STORE"
  | .fileUnavailable => "FILE_UNAVAILABLE"
  | .pageTypeUnknown => "PAGE_TYPE_UNKNOWN"
  | .exceededStorageAllocation => "EXCEEDED_STORAGE_ALLOCATION"
  | .badFileName => "BAD_FILE_NAME"

def all : List NamedCode :=
  [.restartMarker, .readyInNMinutes, .alreadyOpen, .fileStatusOk, .commandOk,
   .commandNotImplementedSuperfluous, .systemStatus, .directoryStatus, .fileStatus, .helpMessage,
   .systemType, .serviceReady, .closingControlConnection, .dataConnectionOpen,
   .closingDataConnection, .enteringPassiveMode, .enteringExtendedPassiveMode, .userLoggedIn,
   .authOkNoDataNeeded, .fileActionOk, .pathCreated, .needPassword, .needAccount,
   .fileActionPending, .serviceNotAvailable, .cantOpenDataConnection, .connectionClosed,
   .transientFileError, .localError, .outOfSpace, .commandSyntaxError, .parameterSyntaxError,
   .commandNotImplemented, .badCommandSequence, .commandNotImplementedForParameter, .notLoggedIn,
   .needAccountToStore, .fileUnavailable, .pageTypeUnknown, .exceededStorageAllocation,
   .badFileName]

def ofNumber? (code : Int) : Option NamedCode := all.find? fun c => (c.number : Int) = code

end NamedCode
end FileTransfer.Reply
