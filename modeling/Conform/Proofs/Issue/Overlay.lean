import Conform.Proofs.Check.Wording
import Conform.Proofs.Table.Merge

/-!
# Catalogs over one another

Of a catalog a validation sees only which template it has for which code.  A
catalog that was read from text has no name twice, so that laying it over another
replaces the templates that it has and keeps all others.
-/
namespace Conform.Catalog

/-- No table of the catalog has a name twice. -/
def Distinct (c : Catalog) : Prop := ∀ domain, (c.table domain).keys.Nodup

section
variable {c : Catalog}

theorem table_merge (base overlay : Catalog) (domain : Domain) :
    (base.merge overlay).table domain = (base.table domain).merge (overlay.table domain) := by
  cases domain <;> rfl

end
end Conform.Catalog
