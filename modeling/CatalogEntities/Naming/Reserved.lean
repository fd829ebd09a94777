/-!
Names that generated code may not reuse.
-/

namespace CatalogEntities.Naming

/-- Keywords of the generated language. -/
def keywords : List String := [
  "False", "None", "True", "and", "as", "assert", "async", "await", "break", "class", "continue",
  "def", "del", "elif", "else", "except", "finally", "for", "from", "global", "if", "import", "in",
  "is", "lambda", "nonlocal", "not", "or", "pass", "raise", "return", "try", "while", "with",
  "yield"]

/-- Class attributes that the declarative base owns. -/
def declarativeNames : List String := [
  "metadata", "registry", "__tablename__", "__table__", "__mapper__", "__table_args__",
  "__mapper_args__"]

/-- Names bound at the top of an entity module: an attribute of the same name would hide them
inside the class. -/
def moduleNames : List String := [
  "datetime", "decimal", "enum", "sa", "TYPE_CHECKING", "Any", "List", "Optional", "Mapped",
  "mapped_column", "relationship", "Base", "BooleanTransformer", "BigIntTransformer", "enum_values"]

/-- Names bound by the entry module next to the entity classes. -/
def entryNames : List String := ["os", "load_dotenv", "DataSource", "entities", "data_source"]

end CatalogEntities.Naming
