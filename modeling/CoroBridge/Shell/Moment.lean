import CoroBridge.Shell.Format
import CoroBridge.Shell.Tool

/-!
# Command language: moments

Days and hours.

* `Moment`             a time in its parts;
* `Moment.of`          the parts of a time in seconds;
* `Moment.usual`       a time as most programs write it;
* `Moment.formatted`   a time in a format.
-/

namespace CoroBridge
namespace Shell

structure Moment where
  second : Nat
  minute : Nat
  hour : Nat
  day : Nat
  month : Nat
  year : Int
  weekDay : Nat
  yearDay : Nat

namespace Moment

def daysBefore (year : Int) : Int :=
  let y := year - 1
  365 * (year - 1970) + (y / 4 - 492) - (y / 100 - 19) + (y / 400 - 4)

def isLeap (year : Int) : Bool := year % 4 == 0 && (year % 100 != 0 || year % 400 == 0)

def monthDays (year : Int) : List Nat :=
  [31, if isLeap year then 29 else 28, 31, 30, 31, 30, 31, 31, 30, 31, 30, 31]

def monthOf : List Nat → Nat → Nat → Nat × Nat
  | [], k, d => (k, d)
  | m :: ms, k, d => if d < m then (k, d) else monthOf ms (k + 1) (d - m)

def of (t : Int) : Moment :=
  let days := t / 86400
  let s := (t % 86400).toNat
  let guess := 1970 + days / 366
  let year := (List.range 3000).foldl (fun (y : Int) _ =>
    if daysBefore (y + 1) ≤ days then y + 1 else y) guess
  let yearDay := (days - daysBefore year).toNat
  let (month, day) := monthOf (monthDays year) 0 yearDay
  ⟨s % 60, s / 60 % 60, s / 3600, day + 1, month, year, ((days + 4) % 7).toNat, yearDay⟩

def dayNames : List Text :=
  (["Sunday", "Monday", "Tuesday", "Wednesday", "Thursday", "Friday", "Saturday"] :
    List String).map String.toList

def monthNames : List Text :=
  (["January", "February", "March", "April", "May", "June", "July", "August", "September",
    "October", "November", "December"] : List String).map String.toList

def twoDigits (n : Nat) : Text := zeroed 2 (Text.ofNat n)

def usual (m : Moment) : Text :=
  (dayNames.getD m.weekDay []).take 3 ++ ' ' :: (monthNames.getD m.month []).take 3 ++ ' ' ::
    padLeft 2 (Text.ofNat m.day) ++ ' ' :: twoDigits m.hour ++ ':' :: twoDigits m.minute ++ ':' ::
    twoDigits m.second ++ ' ' :: ofInt m.year

def formatted (m : Moment) : Nat → Text → Text
  | 0, _ => []
  | n + 1, t =>
    match t with
    | '%' :: c :: r =>
      let u : Text := match c with
        | 'Y' => ofInt m.year
        | 'm' => twoDigits (m.month + 1)
        | 'd' => twoDigits m.day
        | 'e' => padLeft 2 (Text.ofNat m.day)
        | 'H' => twoDigits m.hour
        | 'I' => twoDigits (if m.hour % 12 = 0 then 12 else m.hour % 12)
        | 'M' => twoDigits m.minute
        | 'S' => twoDigits m.second
        | 'p' => if m.hour < 12 then "AM" else "PM"
        | 'y' => twoDigits (m.year % 100).toNat
        | 'j' => zeroed 3 (Text.ofNat (m.yearDay + 1))
        | 'a' => (dayNames.getD m.weekDay []).take 3
        | 'A' => dayNames.getD m.weekDay []
        | 'b' => (monthNames.getD m.month []).take 3
        | 'B' => monthNames.getD m.month []
        | 'F' =>
          ofInt m.year ++ '-' :: twoDigits (m.month + 1) ++ '-' :: twoDigits m.day
        | 'T' => twoDigits m.hour ++ ':' :: twoDigits m.minute ++ ':' :: twoDigits m.second
        | 'R' => twoDigits m.hour ++ ':' :: twoDigits m.minute
        | 'c' => m.usual
        | 'Z' => "UTC"
        | 'z' => "+0000"
        | 'w' => Text.ofNat m.weekDay
        | 'u' => Text.ofNat (if m.weekDay = 0 then 7 else m.weekDay)
        | 'n' => ['\n']
        | 't' => ['\t']
        | '%' => ['%']
        | c => ['%', c]
      u ++ m.formatted n r
    | c :: r => c :: m.formatted n r
    | [] => []

end Moment
end Shell
end CoroBridge
