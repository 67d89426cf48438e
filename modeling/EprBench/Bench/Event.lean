import EprBench.Text.Pieces
import EprBench.Value

/-! What a session does to its surroundings, one entry per act. -/
namespace EprBench

abbrev Options := List (String × Value)

/-- A text as it was written, which is told without the blanks at its end. -/
structure Written where
  text : String

instance : Coe Written String := ⟨fun w => String.ofList (Text.trimRight w.text.toList)⟩

inductive Event where
  | openVisa (address : Value) (options : Options)
  | openGpib (args : List Value) (options : Options)
  | openModbus (args : List Value)
  | openSocket (host port : Value)
  | set (property : String) (value : Value)
  | write (command : Value)
  | query (command : Value)
  | read
  | readUpTo (count : Value)
  | queryNumbers (command : Value)
  | queryBlock (command : Value) (kind : String) (bigEndian : Bool)
  | modbus (function : String) (args : List Value) (options : Options)
  | send (bytes : List UInt8)
  | sendTo (packet host port : Value)
  | receive (count : Int)
  | message (text : String)
  | sleep (seconds : Float)
  | loadLibrary (file : String)
  | call (function : String) (args : List Value)
  | openCard (path : List UInt8)
  | closeCard
  /-- A card register is written; `wide` for one of 64 bits. -/
  | setRegister (wide : Bool) (register value : Value)
  | upload (direction : Value) (notify : Int) (samples : Array Int)
  | download (direction : Value) (notify : Int) (bytes : Int)
  /-- A frame for the plot window, and how long it is. -/
  | plot (frame : Written) (length : Nat)
  | sharedMemory (values : Array Float)
  | startThread
  | joinThread
  | dialog (entries : List Value)
  | clear
  | close

end EprBench
