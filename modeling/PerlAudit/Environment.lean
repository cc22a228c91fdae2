import PerlAudit.Text.Basic

namespace PerlAudit

/-- Variables and their values. Of two with one name the first counts. -/
abbrev Environment := List (Text × Text)

def Environment.get? (e : Environment) (name : Text) : Option Text := e.lookup name

end PerlAudit
