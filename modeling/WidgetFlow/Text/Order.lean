/-!
# The order of texts

Lists of texts are ordered by the first place where they differ; a list that ends there comes first.
-/

namespace WidgetFlow.Text

/-- The first list comes no later than the second. -/
def inOrder : List String → List String → Bool
  | [], _ => true
  | _ :: _, [] => false
  | a :: as, b :: bs => if a = b then inOrder as bs else decide (a < b)

end WidgetFlow.Text
