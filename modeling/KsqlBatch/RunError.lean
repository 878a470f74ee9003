import KsqlBatch.Files.FileFault
import KsqlBatch.Script.Termination
import KsqlBatch.Settings.ConfigFault

/-
  This file defines why a run fails.

  Key definitions include:
    * `TransportFault`
    * `RunError`
    * `RunError.message`
-/

------------------------------------------------------------
-- Errors
------------------------------------------------------------

namespace KsqlBatch

/- Why no response of the engine was received. -/
inductive TransportFault where
| badUrl
| unanswered (url : String)
deriving DecidableEq, Repr, Inhabited

/- The wording of a fault. -/
def TransportFault.message : TransportFault → String
| .badUrl => "builder error"
| .unanswered url =>
    "error sending request for url (" ++ url ++ ")"

/- Why a run fails. -/
inductive RunError where
| file (path : String) (fault : FileFault)
| config (fault : ConfigFault)
| invalidConfig (setting : InvalidSetting)
| transport (fault : TransportFault)
| rejected (statement : String) (status : Nat)
    (message : String)
| response (text : String)
| parse (incomplete : IncompleteStatement)
deriving DecidableEq, Repr, Inhabited

/- The wording of an error. -/
def RunError.message : RunError → String
| .file path fault =>
    "I/O error on " ++ path ++ ": " ++ fault.message
| .config fault => "configuration error: " ++ fault.message
| .invalidConfig setting =>
    "invalid configuration: " ++ setting.message
| .transport fault =>
    "request to ksqlDB failed: " ++ fault.message
| .rejected statement status message =>
    "ksqlDB rejected statement (status " ++
      toString status ++ "): " ++ message ++ "\n\n" ++
      statement ++ "\n"
| .response text =>
    "failed to decode ksqlDB response: " ++ text
| .parse incomplete => incomplete.message

end KsqlBatch
