import RowPlan.Text.Folding

/-!
# Alias groups

Words of three languages that name the same kind of field. Names are compared by their folded form,
so a group is reached from any of its words in any case and with or without accents. A word may
belong to several groups.
-/

namespace RowPlan.Field

/-- The groups of synonyms, in order of preference. -/
def aliasGroups : List (List String) := [
  ["name", "nome", "nombre"],
  ["city", "cidade", "ciudad"],
  ["age", "idade", "edad"],
  ["date", "data", "fecha"],
  ["category", "categoria", "cat"],
  ["price", "preco", "preço", "precio", "valor"],
  ["quantity", "quantidade", "qty", "qtd", "cantidad"],
  ["description", "descricao", "descrição", "desc"],
  ["status", "estado", "situacao", "situação"],
  ["total", "sum", "soma"],
  ["id", "codigo", "código", "code"],
  ["value", "valor", "amount"],
  ["temperature", "temp", "temperatura"],
  ["max", "maximum", "maximo", "máximo"],
  ["min", "minimum", "minimo", "mínimo"]]

/-- The groups together with the folded forms of their words. -/
def foldedGroups : List (List String × List String) :=
  aliasGroups.map fun group => (group, group.map Text.fold)

/-- The synonyms of a name, from all groups that it belongs to. -/
def aliasesFor (name : String) : List String :=
  let folded := Text.fold name
  ((foldedGroups.filter (·.2.contains folded)).flatMap (·.1)).eraseDups

end RowPlan.Field
