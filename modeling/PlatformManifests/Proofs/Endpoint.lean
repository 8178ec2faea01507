import Mathlib.Data.List.TakeWhile
import PlatformManifests.Readiness

/-!
Endpoints: hosts with port numbers, as they are written in addresses and in commands. What is read
from such a text is what was written into it.
-/
namespace PlatformManifests

structure Endpoint where
  host : String
  port : Nat
deriving DecidableEq, Repr

namespace Endpoint

/-! ### Reading -/

/-- A number that is written in decimal digits and nothing else. -/
def number? (digits : List Char) : Option Nat :=
  if digits ≠ [] ∧ digits.all Char.isDigit then some (Nat.ofDigitChars 10 digits 0) else none

def ofTexts? (host port : String) : Option Endpoint :=
  (number? port.toList).map fun number => ⟨host, number⟩

/-- What comes after the first mark that ends a scheme. -/
def afterScheme? : List Char → Option (List Char)
  | ':' :: '/' :: '/' :: rest => some rest
  | _ :: rest => afterScheme? rest
  | [] => none

/-- The host ends at a colon, and the port at a slash or with the text. -/
def ofAuthority? (text : List Char) : Option Endpoint :=
  let authority := text.takeWhile (· ≠ '/')
  match authority.dropWhile (· ≠ ':') with
  | _ :: digits =>
    (number? digits).map fun number =>
      ⟨String.ofList (authority.takeWhile (· ≠ ':')), number⟩
  | [] => none

/-- The endpoint of an address, which may have a scheme before it and a path after it. -/
def ofAddress? (address : String) : Option Endpoint :=
  ofAuthority? ((afterScheme? address.toList).getD address.toList)

/-- What comes after a flag among arguments. -/
def valueOf? (flag : String) : List String → Option String
  | first :: second :: rest =>
    if first = flag then some second else valueOf? flag (second :: rest)
  | _ => none

/-- The endpoint that a command connects to. Of the tools, the first takes host and port at the
end, the second an address at the end, and the third both by flags. -/
def ofCommand? : List String → Option Endpoint
  | [] => none
  | tool :: arguments =>
    if tool = "nc" then
      match arguments.reverse with
      | port :: host :: _ => ofTexts? host port
      | _ => none
    else if tool = "wget" then arguments.getLast?.bind ofAddress?
    else if tool = "pg_isready" then do
      let host ← valueOf? "-h" arguments
      let port ← valueOf? "-p" arguments
      ofTexts? host port
    else none

/-! ### What is written is read back -/

/-- The characters of a host neither end it nor the authority. -/
def PlainHost (host : String) : Prop := host.toList.all fun c => c ≠ ':' ∧ c ≠ '/'

instance (host : String) : Decidable (PlainHost host) := inferInstanceAs (Decidable (_ = true))

theorem PlainHost.not_mark {host : String} (plain : PlainHost host) {c : Char}
    (member : c ∈ host.toList) : c ≠ ':' ∧ c ≠ '/' :=
  of_decide_eq_true (List.all_eq_true.mp plain c member)

theorem repr_injective : Function.Injective Nat.repr := by
  intro first second same
  have digits : Nat.toDigits 10 first = Nat.toDigits 10 second := by
    rw [← Nat.toList_repr, ← Nat.toList_repr, same]
  calc
    first = Nat.ofDigitChars 10 (Nat.toDigits 10 first) 0 := Nat.ofDigitChars_ten_toDigits.symm
    _ = Nat.ofDigitChars 10 (Nat.toDigits 10 second) 0 := by rw [digits]
    _ = second := Nat.ofDigitChars_ten_toDigits

theorem port_injective : Function.Injective (toString : UInt16 → String) := by
  intro first second same
  exact UInt16.toNat_inj.mp (repr_injective same)

theorem toList_port (port : UInt16) : (toString port).toList = Nat.toDigits 10 port.toNat :=
  Nat.toList_repr

theorem isDigit_of_mem_port {port : UInt16} {c : Char} (member : c ∈ (toString port).toList) :
    c.isDigit := by
  rw [toList_port] at member
  exact Nat.isDigit_of_mem_toDigits (by decide) (by decide) member

theorem number?_port (port : UInt16) : number? (toString port).toList = some port.toNat := by
  have written : (toString port).toList ≠ [] := by
    rw [toList_port]
    exact List.ne_nil_of_length_pos Nat.length_toDigits_pos
  have digits : (toString port).toList.all Char.isDigit :=
    List.all_eq_true.mpr fun digit member => isDigit_of_mem_port member
  rw [number?, if_pos ⟨written, digits⟩, toList_port, Nat.ofDigitChars_ten_toDigits]

@[simp] theorem ofTexts?_port (host : String) (port : UInt16) :
    ofTexts? host (toString port) = some ⟨host, port.toNat⟩ := by
  rw [ofTexts?, number?_port]
  rfl

theorem PlainHost.slash_not_mem {host : String} (plain : PlainHost host) : '/' ∉ host.toList :=
  fun member => (plain.not_mark member).2 rfl

theorem slash_not_mem_authority {host : String} (plain : '/' ∉ host.toList) (port : UInt16) :
    '/' ∉ host.toList ++ ':' :: (toString port).toList := by
  intro member
  rcases List.mem_append.mp member with inHost | inPort
  · exact plain inHost
  · rcases List.mem_cons.mp inPort with same | digit
    · cases same
    · exact absurd (isDigit_of_mem_port digit) (by decide)

theorem ne_slash_of_mem_authority {host : String} (plain : PlainHost host) (port : UInt16) :
    ∀ c ∈ host.toList ++ ':' :: (toString port).toList, decide (c ≠ '/') := by
  intro c member
  rw [decide_eq_true_eq]
  rintro rfl
  exact slash_not_mem_authority plain.slash_not_mem port member

theorem ofAuthority?_eq_some {host : String} (plain : PlainHost host) (port : UInt16)
    {path : List Char} (separated : path.takeWhile (· ≠ '/') = []) :
    ofAuthority? (host.toList ++ ':' :: ((toString port).toList ++ path)) =
      some ⟨host, port.toNat⟩ := by
  have noSlash := ne_slash_of_mem_authority plain port
  have noColon : ∀ c ∈ host.toList, decide (c ≠ ':') := by
    intro c member
    exact decide_eq_true (plain.not_mark member).1
  have authority : (host.toList ++ ':' :: ((toString port).toList ++ path)).takeWhile (· ≠ '/') =
      host.toList ++ ':' :: (toString port).toList := by
    rw [← List.cons_append, ← List.append_assoc, List.takeWhile_append_of_pos noSlash, separated,
      List.append_nil]
  unfold ofAuthority?
  simp only [authority, List.takeWhile_append_of_pos noColon,
    List.dropWhile_append_of_pos noColon]
  simp [number?_port]

/-- A text that ends with its first mark is a scheme, whatever follows it. -/
theorem afterScheme?_append {scheme : List Char} (opened : afterScheme? scheme = some [])
    (rest : List Char) : afterScheme? (scheme ++ rest) = some rest := by
  fun_induction afterScheme? scheme with
  | case1 tail =>
    cases Option.some.inj opened
    rfl
  | case2 head tail unmarked ih =>
    rw [List.cons_append, afterScheme?]
    · exact ih opened
    · intro later marked slashes
      match tail with
      | [] => simp [afterScheme?] at opened
      | [_] => simp [afterScheme?] at opened
      | first :: second :: others =>
        simp only [List.cons_append, List.cons.injEq] at slashes
        exact unmarked others marked (by rw [slashes.1, slashes.2.1])
  | case3 => cases opened

/-- An address is read as the endpoint that it was written for. -/
theorem ofAddress?_eq_some {scheme host path : String} {port : UInt16}
    (opened : afterScheme? scheme.toList = some []) (plain : PlainHost host)
    (separated : path.toList.takeWhile (· ≠ '/') = []) :
    ofAddress? (scheme ++ host ++ ":" ++ toString port ++ path) = some ⟨host, port.toNat⟩ := by
  have colon : ":".toList = [':'] := by decide
  have written : (scheme ++ host ++ ":" ++ toString port ++ path).toList =
      scheme.toList ++ (host.toList ++ ':' :: ((toString port).toList ++ path.toList)) := by
    simp only [String.toList_append, colon, List.append_assoc, List.cons_append, List.nil_append]
  rw [ofAddress?, written, afterScheme?_append opened, Option.getD_some]
  exact ofAuthority?_eq_some plain port separated

theorem afterScheme?_eq_none {text : List Char} (none : '/' ∉ text) :
    afterScheme? text = .none := by
  fun_induction afterScheme? text with
  | case1 rest => simp at none
  | case2 head rest _ ih => exact ih fun inside => none (List.mem_cons_of_mem _ inside)
  | case3 => rfl

theorem ofAddress?_of_no_path {scheme host : String} {port : UInt16}
    (opened : afterScheme? scheme.toList = some []) (plain : PlainHost host) :
    ofAddress? (scheme ++ host ++ ":" ++ toString port) = some ⟨host, port.toNat⟩ := by
  have ended : ("" : String).toList.takeWhile (· ≠ '/') = [] := rfl
  have read := @ofAddress?_eq_some _ _ _ port opened plain ended
  rwa [String.append_empty] at read

theorem ofAddress?_of_no_scheme {host : String} (plain : PlainHost host) (port : UInt16) :
    ofAddress? (host ++ ":" ++ toString port) = some ⟨host, port.toNat⟩ := by
  have written : (host ++ ":" ++ toString port).toList =
      host.toList ++ ':' :: ((toString port).toList ++ []) := by
    simp [String.toList_append]
  have noSlash : '/' ∉ (host ++ ":" ++ toString port).toList := by
    rw [written, List.append_nil]
    exact slash_not_mem_authority plain.slash_not_mem port
  rw [ofAddress?, afterScheme?_eq_none noSlash, written]
  exact ofAuthority?_eq_some plain port rfl

/-! ### Commands of wait steps -/

theorem ofCommand?_tcp {step : WaitStep} {host : String} {port : UInt16}
    (tcp : step.check = .tcp host port) :
    ofCommand? step.command = some ⟨host, port.toNat⟩ := by
  rw [WaitStep.command, tcp]
  exact ofTexts?_port host port

theorem ofCommand?_http {step : WaitStep} {host path : String} {port : UInt16}
    (http : step.check = .http host port path) (plain : PlainHost host)
    (separated : path.toList.takeWhile (· ≠ '/') = []) :
    ofCommand? step.command = some ⟨host, port.toNat⟩ := by
  rw [WaitStep.command, http]
  exact ofAddress?_eq_some (by decide) plain separated

theorem ofCommand?_exec {step : WaitStep} {user database : String} {host : String} {port : UInt16}
    (exec : step.check =
      .exec ["pg_isready", "-h", host, "-p", toString port, "-U", user, "-d", database])
    (plain : host ≠ "-p") :
    ofCommand? step.command = some ⟨host, port.toNat⟩ := by
  rw [WaitStep.command, exec]
  simp [ofCommand?, valueOf?, plain]

end Endpoint

end PlatformManifests
