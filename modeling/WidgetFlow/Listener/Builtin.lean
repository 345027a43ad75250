import WidgetFlow.Listener.Table

/-!
# The built-in listener table

The registration methods of the GUI framework that are recognized when no other table is given.
-/

namespace WidgetFlow.ListenerTable

/-- The registrations recognized by default. -/
def builtinRegistrations : List Registration :=
  [{ method := "void setOnClickListener(android.view.View$OnClickListener)"
     interface := "android.view.View$OnClickListener"
     event := "click"
     handlers :=
       [{ method := "void onClick(android.view.View)",
           view := some 0 }] },
   { method := "void setOnLongClickListener(android.view.View$OnLongClickListener)"
     interface := "android.view.View$OnLongClickListener"
     event := "long_click"
     handlers :=
       [{ method := "boolean onLongClick(android.view.View)",
           view := some 0 }] },
   { method := "void setOnTouchListener(android.view.View$OnTouchListener)"
     interface := "android.view.View$OnTouchListener"
     event := "touch"
     handlers :=
       [{ method := "boolean onTouch(android.view.View,android.view.MotionEvent)",
           view := some 0 }] },
   { method := "void setOnKeyListener(android.view.View$OnKeyListener)"
     interface := "android.view.View$OnKeyListener"
     event := "press_key"
     handlers :=
       [{ method := "boolean onKey(android.view.View,int,android.view.KeyEvent)",
           view := some 0 }] },
   { method := "void setOnFocusChangeListener(android.view.View$OnFocusChangeListener)"
     interface := "android.view.View$OnFocusChangeListener"
     event := "focus_change"
     handlers :=
       [{ method := "void onFocusChange(android.view.View,boolean)",
           view := some 0 }] },
   { method := "void setOnItemClickListener(android.widget.AdapterView$OnItemClickListener)"
     interface := "android.widget.AdapterView$OnItemClickListener"
     event := "item_click"
     handlers :=
       [{ method := "void onItemClick(android.widget.AdapterView,android.view.View,int,long)",
           view := some 0 }] },
   { method := "void setOnItemSelectedListener(android.widget.AdapterView$OnItemSelectedListener)"
     interface := "android.widget.AdapterView$OnItemSelectedListener"
     event := "item_selected"
     handlers :=
       [{ method := "void onItemSelected(android.widget.AdapterView,android.view.View,int,long)",
           view := some 0 },
        { method := "void onNothingSelected(android.widget.AdapterView)",
           view := some 0 }] },
   { method := "void setOnCheckedChangeListener(android.widget.CompoundButton$OnCheckedChangeListener)"
     interface := "android.widget.CompoundButton$OnCheckedChangeListener"
     event := "check"
     handlers :=
       [{ method := "void onCheckedChanged(android.widget.CompoundButton,boolean)",
           view := some 0 }] },
   { method := "void setOnEditorActionListener(android.widget.TextView$OnEditorActionListener)"
     interface := "android.widget.TextView$OnEditorActionListener"
     event := "editor_action"
     handlers :=
       [{ method := "boolean onEditorAction(android.widget.TextView,int,android.view.KeyEvent)",
           view := some 0 }] },
   { method := "android.view.MenuItem setOnMenuItemClickListener(android.view.MenuItem$OnMenuItemClickListener)"
     interface := "android.view.MenuItem$OnMenuItemClickListener"
     event := "click"
     handlers :=
       [{ method := "boolean onMenuItemClick(android.view.MenuItem)",
           view := some 0 }] },
   { method := "void setOnCreateContextMenuListener(android.view.View$OnCreateContextMenuListener)"
     interface := "android.view.View$OnCreateContextMenuListener"
     event := "long_click"
     contextMenu := true
     handlers :=
       [{ method := "void onCreateContextMenu(android.view.ContextMenu,android.view.View,android.view.ContextMenu$ContextMenuInfo)",
           view := some 1, menu := some 0 }] },
   { method := "void registerForContextMenu(android.view.View)"
     interface := "android.view.View$OnCreateContextMenuListener"
     event := "long_click"
     contextMenu := true
     handlers :=
       [{ method := "void onCreateContextMenu(android.view.ContextMenu,android.view.View,android.view.ContextMenu$ContextMenuInfo)",
           view := some 1, menu := some 0 }] }]

/-- The table used when no other is given. -/
def builtin : ListenerTable := ⟨builtinRegistrations⟩

/-- No built-in registration is at fault. -/
theorem firstFault?_builtinRegistrations : firstFault? [] builtinRegistrations = none := by
  decide +kernel

/-- The built-in registrations form a proper table. -/
theorem ofRegistrations_builtinRegistrations :
    ofRegistrations builtinRegistrations = .ok builtin := by
  simp [ofRegistrations, firstFault?_builtinRegistrations, builtin]

end WidgetFlow.ListenerTable
