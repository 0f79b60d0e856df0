/-!
The languages of the inserted notes and their wording.
-/

namespace HeaderNotes

inductive Locale
  | english
  | arabic
deriving DecidableEq, Repr, Inhabited

namespace Locale

def name : Locale → String
  | english => "english"
  | arabic => "arabic"

def ofName? (s : String) : Option Locale :=
  [english, arabic].find? fun l => l.name == s

/-- The locale that a person may mean: its name or its two-letter code, in letters of any
case. -/
def parse? (s : String) : Option Locale :=
  match s.map Char.toLower with
  | "english" | "en" => some english
  | "arabic" | "ar" => some arabic
  | _ => none

/-- What stands for the parameters of a function that has none. -/
def placeholder : Locale → String
  | english => "none"
  | arabic => "بدون"

def summary (locale : Locale) (function : String) : String :=
  match locale with
  | english =>
    "Note: function " ++ function ++ ", brief auto-generated description of its purpose."
  | arabic => "ملاحظة: الدالة " ++ function ++ " — وصف تلقائي موجز لوظيفتها."

def inputs : Locale → String
  | english => "Inputs"
  | arabic => "المدخلات"

def outputs : Locale → String
  | english => "Outputs: see implementation"
  | arabic => "المخرجات: راجع التنفيذ"

end Locale
end HeaderNotes
