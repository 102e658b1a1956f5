import FormBuilder.Field.Changes
/-! Form settings: the ones every form has, and any others a client cares to keep. -/
namespace FormBuilder

structure Settings where
  theme : String
  layout : String
  thankYouMessage : String
  redirectUrl : Option String
  webhookUrl : Option String
  webhookEnabled : Bool
  enableHoneypot : Bool
  showProgressBar : Bool
  removeBranding : Bool
  allowMultipleSubmissions : Bool
  extra : Object
  deriving Repr

namespace Settings

def themeKey : Key := ⟨"theme","theme"⟩
def layoutKey : Key := ⟨"layout","layout"⟩
def thankYouMessageKey : Key := ⟨"thankYouMessage","thank_you_message"⟩
def redirectUrlKey : Key := ⟨"redirectUrl","redirect_url"⟩
def webhookUrlKey : Key := ⟨"webhookUrl","webhook_url"⟩
def webhookEnabledKey : Key := ⟨"webhookEnabled","webhook_enabled"⟩
def enableHoneypotKey : Key := ⟨"enableHoneypot","enable_honeypot"⟩
def showProgressBarKey : Key := ⟨"showProgressBar","show_progress_bar"⟩
def removeBrandingKey : Key := ⟨"removeBranding","remove_branding"⟩
def allowMultipleSubmissionsKey : Key := ⟨"allowMultipleSubmissions","allow_multiple_submissions"⟩

def keys : List Key :=
  [themeKey,layoutKey,thankYouMessageKey,redirectUrlKey,webhookUrlKey,webhookEnabledKey,
    enableHoneypotKey,showProgressBarKey,removeBrandingKey,allowMultipleSubmissionsKey]

def default : Settings :=
  ⟨"default","classic","Thank you for your submission!",none,none,false,false,false,false,true,[]⟩

def usedName (o : Object) (k : Key) : Option String := (o.given? k.names).map (·.1)

/-- What is left once the declared settings are taken out. Where both spellings of a declared one
are given, the second stays as an extra. -/
def extrasOf (o : Object) : Object := o.filter (fun e => !keys.any (fun k => usedName o k == some e.1))

def ofObject (o : Object) : Checked Settings :=
  let text (k : Key) (default : String) := o.readAt k.names default Scalar.text
  let optional (k : Key) := o.readAt k.names none (Scalar.optional Scalar.text)
  let flag (k : Key) (default : Bool) := o.readAt k.names default Scalar.bool
  (Checked.part (.part (.part (.part (.part (.part (.part (.part (.part ((text themeKey default.theme).map Settings.mk)
    (text layoutKey default.layout)) (text thankYouMessageKey default.thankYouMessage))
    (optional redirectUrlKey)) (optional webhookUrlKey)) (flag webhookEnabledKey false))
    (flag enableHoneypotKey false)) (flag showProgressBarKey false)) (flag removeBrandingKey false))
    (flag allowMultipleSubmissionsKey true)).map (fun build => build (extrasOf o))

def read : Value → Checked Settings
  | .object o => ofObject o
  | _ => .fault .notRecord

def attributes (s : Settings) : List (Key × Value) :=
  [(themeKey,.str s.theme),(layoutKey,.str s.layout),(thankYouMessageKey,.str s.thankYouMessage),
    (redirectUrlKey,.ofOption .str s.redirectUrl),(webhookUrlKey,.ofOption .str s.webhookUrl),
    (webhookEnabledKey,.bool s.webhookEnabled),(enableHoneypotKey,.bool s.enableHoneypot),
    (showProgressBarKey,.bool s.showProgressBar),(removeBrandingKey,.bool s.removeBranding),
    (allowMultipleSubmissionsKey,.bool s.allowMultipleSubmissions)]

def entries (spelling : Spelling) (s : Settings) : Object :=
  Object.overlay (spelling.entries s.attributes)
    (s.extra.filter fun e =>
      match spelling,e.2 with
      | .wire,.null => false
      | _,_ => true)

def toWire (s : Settings) : Value := .object (s.entries .wire)

def merged (settings changes : Object) : Object := settings.overlay (changes.renameKeys Text.underscored)

def apply (s : Settings) (changes : Object) : Checked Settings := ofObject (merged (s.entries .plain) changes)

end Settings
end FormBuilder
