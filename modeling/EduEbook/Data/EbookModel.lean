import EduEbook.Data.Json

/-!
# The book model

`EbookModel` carries the fourteen fields of a catalogue entry, each of which may
be null.  The detail pages hold one, and a favorite keeps its encoding.
-/

namespace EduEbook.Models

open EduEbook.Json

structure EbookModel where
  id : Option ℤ
  title : Option String
  photo : Option String
  description : Option String
  catId : Option ℤ
  statusNews : Option ℤ
  pdf : Option String
  date : Option String
  authorName : Option String
  publisherName : Option String
  pages : Option ℤ
  language : Option String
  price : Option ℤ
  rating : Option DartDouble
  deriving DecidableEq

def ofInt (value : Option ℤ) : JsonValue := value.elim .null .int

def ofString (value : Option String) : JsonValue := value.elim .null .string

def ofDouble (value : Option DartDouble) : JsonValue := value.elim .null .double

/-- The entries of the encoded map, in the order they are written. -/
def EbookModel.toJson (model : EbookModel) : List (String × JsonValue) :=
  [("id", ofInt model.id),
    ("title", ofString model.title),
    ("photo", ofString model.photo),
    ("description", ofString model.description),
    ("cat_id", ofInt model.catId),
    ("status_news", ofInt model.statusNews),
    ("pdf", ofString model.pdf),
    ("date", ofString model.date),
    ("author_name", ofString model.authorName),
    ("publisher_name", ofString model.publisherName),
    ("pages", ofInt model.pages),
    ("language", ofString model.language),
    ("price", ofInt model.price),
    ("rating", ofDouble model.rating)]

end EduEbook.Models
