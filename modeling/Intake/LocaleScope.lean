/-!
# Locale scopes

The active locale is that of the innermost open scope.  A scope that is opened without a locale of
its own keeps the one around it.

## Main definitions

* `LocaleScopes` — the open scopes.
* `LocaleScopes.current` — the active locale.
* `LocaleScopes.enter`, `LocaleScopes.leave` — opening and closing a scope.
-/

namespace Intake

/-- The locale outside of all scopes. -/
def defaultLocale : String := "en"

/-- The locales of the open scopes, the innermost first. -/
structure LocaleScopes where
  opened : List String := []

namespace LocaleScopes

/-- The active locale. -/
def current (scopes : LocaleScopes) : String :=
  scopes.opened.headD defaultLocale

/-- Opens a scope; an empty locale counts as none. -/
def enter (scopes : LocaleScopes) (locale : Option String) : LocaleScopes :=
  ⟨(locale.filter (· ≠ "")).getD scopes.current :: scopes.opened⟩

/-- Closes the innermost scope. -/
def leave (scopes : LocaleScopes) : LocaleScopes :=
  ⟨scopes.opened.tail⟩

end LocaleScopes

end Intake
