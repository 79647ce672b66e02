namespace ReleaseFeed

/-- The weight of a log record. -/
inductive LogLevel where
  | debug
  | info
  | warn
  | error
deriving DecidableEq

def LogLevel.name : LogLevel → String
  | .debug => "DEBUG"
  | .info => "INFO"
  | .warn => "WARN"
  | .error => "ERROR"

structure LogRecord where
  level : LogLevel
  text : String
deriving DecidableEq

def LogRecord.line (record : LogRecord) : String := record.level.name ++ " " ++ record.text

end ReleaseFeed
