/-
  This file defines log records. A record has a level, the
  part of the program that writes it, and a message.

  Key definitions include:
    * `LogLevel`
    * `LogSource`
    * `LogRecord`
-/

------------------------------------------------------------
-- Log Records
------------------------------------------------------------

namespace KsqlBatch

/- How grave the occasion of a record is. -/
inductive LogLevel where
| error
| warn
| info
| debug
| trace
deriving DecidableEq, Repr, Inhabited

/- The part of the program that writes a record. -/
inductive LogSource where
| parser
| executor
| batch
| connection
| engine
| program
deriving DecidableEq, Repr, Inhabited

/- One line of the log. -/
structure LogRecord where
  level : LogLevel
  source : LogSource
  message : String
deriving DecidableEq, Repr, Inhabited

end KsqlBatch
