import KernelWallet.Key.Arithmetic
import KernelWallet.Address.Xin

/-! The command line: its options, its four commands, and what is a mistake in its use. -/

namespace KernelWallet.Command

/-- An option, with a value behind it or without. -/
structure Opt where
  long : String
  short : Option Char := none
  hasValue : Bool := true
  /-- Whether it may be given more than once. -/
  repeats : Bool := false

/-- What has been read of the arguments: options in order, and the rest. -/
structure Scanned where
  options : List (String × String) := []
  rest : List String := []

namespace Scanned

def values (s : Scanned) (long : String) : List String :=
  s.options.filterMap fun (name, v) => if name == long then some v else none

def value? (s : Scanned) (long : String) : Option String := (s.values long).getLast?

def has (s : Scanned) (long : String) : Bool := !(s.values long).isEmpty

def push (s : Scanned) (opt : Opt) (v : String) : Option Scanned :=
  if s.has opt.long && !opt.repeats then none
  else some { s with options := s.options ++ [(opt.long, v)] }

end Scanned

/-- Whether an argument is an option and not a value. -/
def isOption (arg : String) : Bool := arg.startsWith "-" && arg != "-"

/-- Reads the letters of an argument such as `-vc`. An option with a value takes the rest of the
letters, or the next argument, as its value; how many arguments it took is returned. -/
def scanLetters (opts : List Opt) (next : Option String) (s : Scanned) :
    List Char → Option (Scanned × Nat)
  | [] => some (s, 0)
  | c :: rest => do
    let opt ← opts.find? (·.short == some c)
    if opt.hasValue then
      match rest with
      | '=' :: v => return (← s.push opt (String.ofList v), 0)
      | [] =>
        let v ← next
        if isOption v then none
        return (← s.push opt v, 1)
      | v => return (← s.push opt (String.ofList v), 0)
    else scanLetters opts next (← s.push opt "") rest

/-- Reads an argument such as `--name` or `--name=value`, and tells whether it took the next one. -/
def scanLong (opts : List Opt) (next : Option String) (s : Scanned) (arg : String) :
    Option (Scanned × Nat) := do
  let chars := arg.toList.drop 2
  let name := String.ofList (chars.takeWhile (· != '='))
  let opt ← opts.find? (·.long == name)
  match opt.hasValue, chars.dropWhile (· != '=') with
  | true, '=' :: v => return (← s.push opt (String.ofList v), 0)
  | true, _ =>
    let v ← next
    if isOption v then none
    return (← s.push opt v, 1)
  | false, [] => return (← s.push opt "", 0)
  | false, _ => none

/-- Reads arguments. With `stopEarly` the first that is no option ends the reading and there is no
`--`; else options may stand anywhere in front of `--`. -/
def scan (opts : List Opt) (stopEarly : Bool) (s : Scanned) (skip : Nat) :
    List String → Option Scanned
  | [] => some s
  | arg :: rest =>
    if 0 < skip then scan opts stopEarly s (skip - 1) rest
    else if arg == "--" then if stopEarly then none else some { s with rest := s.rest ++ rest }
    else if arg.startsWith "--" then do
      let (s, skip) ← scanLong opts rest.head? s arg
      scan opts stopEarly s skip rest
    else if isOption arg then do
      let (s, skip) ← scanLetters opts rest.head? s (arg.toList.drop 1)
      scan opts stopEarly s skip rest
    else if stopEarly then some { s with rest := arg :: rest }
    else scan opts stopEarly { s with rest := s.rest ++ [arg] } 0 rest

inductive AddressSource where
  | privateSpend (key : Key)
  | publicSpend (key : Key)
  | members (members : List String) (threshold : UInt8)

end Command

inductive Command where
  | address (source : Command.AddressSource)
  | decode (raw : String)
  | ghost (receivers : List Address) (index version : UInt8)
  | sendRaw (raw : String)

structure Invocation where
  verbose : Bool
  config : Option String
  command : Command

namespace Command

def globalOptions : List Opt :=
  [{ long := "verbose", short := some 'v', hasValue := false },
    { long := "config", short := some 'c' }]

/-- A number of one byte: digits after an optional sign. -/
def byte? (s : String) : Option UInt8 :=
  let digits := match s.toList with
    | '+' :: rest => rest
    | '-' :: rest => rest
    | rest => rest
  let n : Nat := digits.foldl (fun n c => 10 * n + (c.toNat - 48)) 0
  if digits.isEmpty || !digits.all Char.isDigit then none
  else if s.startsWith "-" then if n = 0 then some 0 else none
  else if n < 256 then some (UInt8.ofNat n) else none

/-- The value of an option, or the one it has when it is not given. -/
def byteOption? (s : Scanned) (long : String) (default : UInt8) : Option UInt8 :=
  match s.value? long with
  | some v => byte? v
  | none => some default

def keyOption? (s : Scanned) (long : String) : Option (Option Key) :=
  match s.value? long with
  | some v => (Key.ofHex v).toOption.map some
  | none => some none

/-- The one argument that is no option. -/
def single? (s : Scanned) : Option String :=
  match s.rest with
  | [raw] => some raw
  | _ => none

def addressOptions : List Opt :=
  [{ long := "spend" }, { long := "public-spend" }, { long := "members", repeats := true },
    { long := "threshold" }]

/-- A private spend key, a public spend key and members exclude one another. -/
def address? (s : Scanned) : Option Command := do
  let spend ← keyOption? s "spend"
  let publicSpend ← keyOption? s "public-spend"
  let threshold ← byteOption? s "threshold" 1
  let members := (s.values "members").flatMap (·.splitOn ",")
  let given := [spend.isSome, publicSpend.isSome, s.has "members"]
  if 1 < given.count true || !s.rest.isEmpty then none
  match spend, publicSpend with
  | some key, _ => return .address (.privateSpend key)
  | none, some key => return .address (.publicSpend key)
  | none, none => return .address (.members members threshold)

def ghostOptions : List Opt := [{ long := "index" }, { long := "version" }]

def ghost? (s : Scanned) : Option Command := do
  let receivers ← s.rest.mapM fun r => (Address.ofText r).toOption
  let index ← byteOption? s "index" 0
  let version ← byteOption? s "version" 5
  if receivers.isEmpty then none else return .ghost receivers index version

/-- The options of a command, and how it is read from them. -/
def named? (name : String) : Option (List Opt × (Scanned → Option Command)) :=
  if name == "address" then some (addressOptions, address?)
  else if name == "decode" then some ([], fun s => (single? s).map .decode)
  else if name == "ghost" then some (ghostOptions, ghost?)
  else if name == "send-raw" then some ([], fun s => (single? s).map .sendRaw)
  else none

end Command

/-- The command that arguments ask for; none if they are used wrongly. -/
def Invocation.ofArguments? (args : List String) : Option Invocation := do
  let outer ← Command.scan Command.globalOptions true {} 0 args
  match outer.rest with
  | [] => none
  | name :: rest =>
    let (opts, read) ← Command.named? name
    let inner ← Command.scan (Command.globalOptions ++ opts) false {} 0 rest
    let command ← read inner
    let configs := outer.values "config" ++ inner.values "config"
    if configs.contains "" then none
    return { verbose := inner.has "verbose" || outer.has "verbose", config := configs.getLast?,
             command }

end KernelWallet
