import SchemaCompiler.Text.Transliteration.Rows

/-!
Names of pictures.

* `pictureRows`: the names of pictures, which stand between colons in a spelling.
-/

namespace SchemaCompiler.Text

/-- The names of pictures. -/
def pictureRows : List SpellingRow := [
  (0x231A, "watch hourglass"),
  (0x2328, "keyboard"),
  (0x2388, "helm_symbol"),
  (0x23CF, "eject_button"),
  (0x23E9, "fast_forward rewind arrow_double_up arrow_double_down next_track_button"),
  (0x23EE, "previous_track_button play_or_pause_button alarm_clock stopwatch timer_clock"),
  (0x23F3, "hourglass_flowing_sand     pause_button stop_button record_button"),
  (0x2600, "sunny cloud open_umbrella snowman_with_snow comet"),
  (0x260E, "phone   ballot_box_with_check   umbrella coffee   shamrock     point_up"),
  (0x2620, "skull_and_crossbones  radioactive biohazard   orthodox_cross    star_and_crescent"),
  (0x262E, "peace_symbol yin_yang"),
  (0x2638, "wheel_of_dharma frowning_face relaxed"),
  (0x2640, "female_sign  male_sign"),
  (0x2648, "aries taurus gemini cancer leo virgo libra scorpius sagittarius capricorn aquarius"),
  (0x2653, "pisces"),
  (0x2660, "spades   clubs  hearts diamonds  hotsprings"),
  (0x267B, "recycle   infinity wheelchair"),
  (0x2692, "hammer_and_pick anchor crossed_swords medical_symbol balance_scale alembic  gear"),
  (0x269B, "atom_symbol fleur_de_lis    warning zap"),
  (0x26AA, "white_circle black_circle     coffin funeral_urn"),
  (0x26BD, "soccer baseball"),
  (0x26C4, "snowman partly_sunny   cloud_with_lightning_and_rain"),
  (0x26CE, "ophiuchus pick  rescue_worker_helmet  chains no_entry"),
  (0x26E9, "shinto_shrine church"),
  (0x26F0, "mountain parasol_on_ground fountain golf ferry boat  skier ice_skate"),
  (0x26F9, "person_with_ball tent   fuelpump     scissors   white_check_mark   airplane envelope"),
  (0x270A, "fist hand v writing_hand  pencil2   black_nib"),
  (0x271D, "latin_cross    star_of_david"),
  (0x2728, "sparkles"),
  (0x2733, "eight_spoked_asterisk eight_pointed_black_star"),
  (0x2744, "snowflake   sparkle     x  negative_squared_cross_mark     question grey_question"),
  (0x2755, "grey_exclamation  exclamation"),
  (0x2763, "heavy_heart_exclamation heart"),
  (0x2795, "heavy_plus_sign heavy_minus_sign heavy_division_sign"),
  (0x27A1, "arrow_right"),
  (0x27B0, "curly_loop"),
  (0x27BF, "loop"),
  (0x2B50, "star     o"),
  (0x1F004, "mahjong"),
  (0x1F0CF, "black_joker"),
  (0x1F300, "cyclone foggy closed_umbrella night_with_stars sunrise_over_mountains sunrise"),
  (0x1F306, "city_sunset city_sunrise rainbow bridge_at_night ocean volcano milky_way"),
  (0x1F30D, "earth_africa earth_americas earth_asia globe_with_meridians new_moon"),
  (0x1F312, "waxing_crescent_moon first_quarter_moon moon full_moon waning_gibbous_moon"),
  (0x1F317, "last_quarter_moon waning_crescent_moon crescent_moon new_moon_with_face"),
  (0x1F31B, "first_quarter_moon_with_face last_quarter_moon_with_face full_moon_with_face"),
  (0x1F31E, "sun_with_face star2 stars thermometer   sun_behind_small_cloud"),
  (0x1F325, "sun_behind_large_cloud sun_behind_rain_cloud cloud_with_rain cloud_with_snow"),
  (0x1F329, "cloud_with_lightning tornado fog wind_face hotdog taco burrito chestnut seedling"),
  (0x1F332, "evergreen_tree deciduous_tree palm_tree cactus hot_pepper tulip cherry_blossom rose"),
  (0x1F33A, "hibiscus sunflower blossom corn ear_of_rice herb four_leaf_clover maple_leaf"),
  (0x1F342, "fallen_leaf leaves mushroom tomato eggplant grapes melon watermelon tangerine lemon"),
  (0x1F34C, "banana pineapple apple green_apple pear peach cherries strawberry hamburger pizza"),
  (0x1F356, "meat_on_bone poultry_leg rice_cracker rice_ball rice curry ramen spaghetti bread"),
  (0x1F35F, "fries sweet_potato dango oden sushi fried_shrimp fish_cake icecream shaved_ice"),
  (0x1F368, "ice_cream doughnut cookie chocolate_bar candy lollipop custard honey_pot cake bento"),
  (0x1F372, "stew fried_egg fork_and_knife tea sake wine_glass cocktail tropical_drink beer"),
  (0x1F37B, "beers baby_bottle plate_with_cutlery champagne popcorn ribbon gift birthday"),
  (0x1F383, "jack_o_lantern christmas_tree santa fireworks sparkler balloon tada confetti_ball"),
  (0x1F38B, "tanabata_tree crossed_flags bamboo dolls flags wind_chime rice_scene school_satchel"),
  (0x1F393, "mortar_board   medal_military reminder_ribbon  studio_microphone level_slider"),
  (0x1F39B, "control_knobs   film_strip admission_tickets carousel_horse ferris_wheel"),
  (0x1F3A2, "roller_coaster fishing_pole_and_fish microphone movie_camera cinema headphones art"),
  (0x1F3A9, "tophat circus_tent ticket clapper performing_arts video_game dart slot_machine"),
  (0x1F3B1, "8ball game_die bowling flower_playing_cards musical_note notes saxophone guitar"),
  (0x1F3B9, "musical_keyboard trumpet violin musical_score running_shirt_with_sash tennis ski"),
  (0x1F3C0, "basketball checkered_flag snowboarder runner surfer medal_sports trophy"),
  (0x1F3C7, "horse_racing football rugby_football swimmer weight_lifter golfer motorcycle"),
  (0x1F3CE, "racing_car cricket_game volleyball field_hockey ice_hockey ping_pong mountain_snow"),
  (0x1F3D5, "camping beach_umbrella building_construction houses cityscape derelict_house"),
  (0x1F3DB, "classical_building desert desert_island national_park stadium house"),
  (0x1F3E1, "house_with_garden office post_office european_post_office hospital bank atm hotel"),
  (0x1F3E9, "love_hotel convenience_store school department_store factory izakaya_lantern"),
  (0x1F3EF, "japanese_castle european_castle   white_flag black_flag rosette  label badminton"),
  (0x1F3F9, "bow_and_arrow amphora light_skin_tone medium_light_skin_tone medium_skin_tone"),
  (0x1F3FE, "medium_dark_skin_tone dark_skin_tone rat mouse2 ox water_buffalo cow2 tiger2"),
  (0x1F406, "leopard rabbit2 cat2 dragon crocodile whale2 snail snake racehorse ram goat sheep"),
  (0x1F412, "monkey rooster chicken dog2 pig2 boar elephant octopus shell bug ant bee beetle"),
  (0x1F41F, "fish tropical_fish blowfish turtle hatching_chick baby_chick hatched_chick bird"),
  (0x1F427, "penguin koala poodle dromedary_camel camel dolphin mouse cow tiger rabbit cat"),
  (0x1F432, "dragon_face whale horse monkey_face dog pig frog hamster wolf bear panda_face"),
  (0x1F43D, "pig_nose feet chipmunk eyes eye ear nose lips tongue point_up_2 point_down"),
  (0x1F448, "point_left point_right facepunch wave ok_hand +1 -1 clap open_hands crown"),
  (0x1F452, "womans_hat eyeglasses necktie shirt jeans dress kimono bikini womans_clothes purse"),
  (0x1F45C, "handbag pouch mans_shoe athletic_shoe high_heel sandal boot footprints"),
  (0x1F464, "bust_in_silhouette busts_in_silhouette boy girl man woman family couple"),
  (0x1F46C, "two_men_holding_hands two_women_holding_hands cop dancers bride_with_veil"),
  (0x1F471, "person_with_blond_hair man_with_gua_pi_mao man_with_turban older_man older_woman"),
  (0x1F476, "baby construction_worker princess japanese_ogre japanese_goblin ghost angel alien"),
  (0x1F47E, "space_invader imp skull information_desk_person guardsman dancer lipstick nail_care"),
  (0x1F486, "massage haircut barber syringe pill kiss love_letter ring gem couplekiss bouquet"),
  (0x1F491, "couple_with_heart wedding heartbeat broken_heart two_hearts sparkling_heart"),
  (0x1F497, "heartpulse cupid blue_heart green_heart yellow_heart purple_heart gift_heart"),
  (0x1F49E, "revolving_hearts heart_decoration diamond_shape_with_a_dot_inside bulb anger bomb"),
  (0x1F4A4, "zzz boom sweat_drops droplet dash hankey muscle dizzy speech_balloon"),
  (0x1F4AD, "thought_balloon white_flower 100 moneybag currency_exchange heavy_dollar_sign"),
  (0x1F4B3, "credit_card yen dollar euro pound money_with_wings chart seat computer briefcase"),
  (0x1F4BD, "minidisc floppy_disk cd dvd file_folder open_file_folder page_with_curl"),
  (0x1F4C4, "page_facing_up date calendar card_index chart_with_upwards_trend"),
  (0x1F4C9, "chart_with_downwards_trend bar_chart clipboard pushpin round_pushpin paperclip"),
  (0x1F4CF, "straight_ruler triangular_ruler bookmark_tabs ledger notebook"),
  (0x1F4D4, "notebook_with_decorative_cover closed_book book green_book blue_book orange_book"),
  (0x1F4DA, "books name_badge scroll memo telephone_receiver pager fax satellite loudspeaker"),
  (0x1F4E3, "mega outbox_tray inbox_tray package e-mail incoming_envelope envelope_with_arrow"),
  (0x1F4EA, "mailbox_closed mailbox mailbox_with_mail mailbox_with_no_mail postbox postal_horn"),
  (0x1F4F0, "newspaper iphone calling vibration_mode mobile_phone_off no_mobile_phones"),
  (0x1F4F6, "signal_strength camera camera_with_flash video_camera tv radio vhs film_projector"),
  (0x1F4FF, "prayer_beads twisted_rightwards_arrows repeat repeat_one arrows_clockwise"),
  (0x1F504, "arrows_counterclockwise low_brightness high_brightness mute speaker sound"),
  (0x1F50A, "loud_sound battery electric_plug mag mag_right lock_with_ink_pen"),
  (0x1F510, "closed_lock_with_key key lock unlock bell no_bell bookmark link radio_button back"),
  (0x1F51A, "end on soon top underage ten capital_abcd abcd 1234 symbols abc fire flashlight"),
  (0x1F527, "wrench hammer nut_and_bolt hocho gun microscope telescope crystal_ball"),
  (0x1F52F, "six_pointed_star beginner trident black_square_button white_square_button"),
  (0x1F534, "red_circle large_blue_circle large_orange_diamond large_blue_diamond"),
  (0x1F538, "small_orange_diamond small_blue_diamond small_red_triangle small_red_triangle_down"),
  (0x1F53C, "arrow_up_small arrow_down_small"),
  (0x1F549, "om dove kaaba mosque synagogue menorah  clock1 clock2 clock3 clock4 clock5 clock6"),
  (0x1F556, "clock7 clock8 clock9 clock10 clock11 clock12 clock130 clock230 clock330 clock430"),
  (0x1F560, "clock530 clock630 clock730 clock830 clock930 clock1030 clock1130 clock1230"),
  (0x1F56F, "candle mantelpiece_clock   hole man_in_business_suit_levitating sleuth_or_spy"),
  (0x1F576, "dark_sunglasses spider spider_web joystick man_dancing"),
  (0x1F587, "paperclips   pen fountain_pen paintbrush crayon   raised_hand_with_fingers_splayed"),
  (0x1F595, "middle_finger vulcan_salute"),
  (0x1F5A4, "black_heart desktop_computer   printer"),
  (0x1F5B1, "computer_mouse trackball"),
  (0x1F5BC, "framed_picture"),
  (0x1F5C2, "card_index_dividers card_file_box file_cabinet"),
  (0x1F5D1, "wastebasket spiral_notepad spiral_calendar"),
  (0x1F5DC, "clamp old_key newspaper_roll   dagger  speaking_head     left_speech_bubble"),
  (0x1F5EF, "right_anger_bubble    ballot_box"),
  (0x1F5FA, "world_map mount_fuji tokyo_tower statue_of_liberty japan moyai grinning grin joy"),
  (0x1F603, "smiley smile sweat_smile laughing innocent smiling_imp wink blush yum relieved"),
  (0x1F60D, "heart_eyes sunglasses smirk neutral_face expressionless unamused sweat pensive"),
  (0x1F615, "confused confounded kissing kissing_heart kissing_smiling_eyes kissing_closed_eyes"),
  (0x1F61B, "stuck_out_tongue stuck_out_tongue_winking_eye stuck_out_tongue_closed_eyes"),
  (0x1F61E, "disappointed worried angry rage cry persevere triumph disappointed_relieved"),
  (0x1F626, "frowning anguished fearful weary sleepy tired_face grimacing sob open_mouth hushed"),
  (0x1F630, "cold_sweat scream astonished flushed sleeping dizzy_face no_mouth mask smile_cat"),
  (0x1F639, "joy_cat smiley_cat heart_eyes_cat smirk_cat kissing_cat pouting_cat crying_cat_face"),
  (0x1F640, "scream_cat slightly_frowning_face slightly_smiling_face upside-down_face roll_eyes"),
  (0x1F645, "no_good ok_woman bow see_no_evil hear_no_evil speak_no_evil raising_hand"),
  (0x1F64C, "raised_hands frowning_person person_with_pouting_face pray"),
  (0x1F680, "rocket helicopter steam_locomotive railway_car bullettrain_side bullettrain_front"),
  (0x1F686, "train2 metro light_rail station tram train bus oncoming_bus trolleybus busstop"),
  (0x1F690, "minibus ambulance fire_engine police_car oncoming_police_car taxi oncoming_taxi car"),
  (0x1F698, "oncoming_automobile blue_car truck articulated_lorry tractor monorail"),
  (0x1F69E, "mountain_railway suspension_railway mountain_cableway aerial_tramway ship rowboat"),
  (0x1F6A4, "speedboat traffic_light vertical_traffic_light construction rotating_light"),
  (0x1F6A9, "triangular_flag_on_post door no_entry_sign smoking no_smoking"),
  (0x1F6AE, "put_litter_in_its_place do_not_litter potable_water non-potable_water bike"),
  (0x1F6B3, "no_bicycles bicyclist mountain_bicyclist walking no_pedestrians children_crossing"),
  (0x1F6B9, "mens womens restroom baby_symbol toilet wc shower bath bathtub passport_control"),
  (0x1F6C3, "customs baggage_claim left_luggage"),
  (0x1F6CB, "couch_and_lamp sleeping_accommodation shopping bellhop_bell bed place_of_worship"),
  (0x1F6D1, "stop_sign shopping_cart   hindu_temple hut elevator     wireless playground_slide"),
  (0x1F6DE, "wheel ring_buoy hammer_and_wrench shield oil_drum motorway railway_track motor_boat"),
  (0x1F6E9, "small_airplane  flight_departure flight_arrival    artificial_satellite"),
  (0x1F6F3, "passenger_ship kick_scooter motor_scooter canoe sled flying_saucer skateboard"),
  (0x1F6FA, "auto_rickshaw pickup_truck roller_skate"),
  (0x1F7E0, "orange_circle yellow_circle green_circle purple_circle brown_circle red_square"),
  (0x1F7E6, "blue_square orange_square yellow_square green_square purple_square brown_square"),
  (0x1F7F0, "heavy_equals_sign"),
  (0x1F90C, "pinched_fingers white_heart brown_heart pinching_hand zipper_mouth_face"),
  (0x1F911, "money-mouth_face face_with_thermometer nerd_face thinking face_with_head_bandage"),
  (0x1F916, "robot hugs metal call_me_hand raised_back_of_hand fist_left fist_right handshake"),
  (0x1F91E, "crossed_fingers love_you_gesture cowboy_hat_face clown_face nauseated_face rofl"),
  (0x1F924, "drooling_face lying_face facepalm sneezing_face raised_eyebrow star-struck"),
  (0x1F92A, "zany_face shushing_face cursing_face hand_over_mouth vomiting_face exploding_head"),
  (0x1F930, "pregnant_woman breast_feeding palms_up_together selfie prince person_in_tuxedo"),
  (0x1F936, "mrs_claus shrug person_cartwheeling person_juggling person_fencing"),
  (0x1F93C, "people_wrestling person_playing_water_polo person_playing_handball diving_mask"),
  (0x1F940, "wilted_flower drum clinking_glasses tumbler_glass spoon goal_net  1st_place_medal"),
  (0x1F948, "2nd_place_medal 3rd_place_medal boxing_glove martial_arts_uniform curling_stone"),
  (0x1F94D, "lacrosse softball flying_disc croissant avocado cucumber bacon potato carrot"),
  (0x1F956, "baguette_bread green_salad shallow_pan_of_food stuffed_flatbread egg milk_glass"),
  (0x1F95C, "peanuts kiwi_fruit pancakes dumpling fortune_cookie takeout_box chopsticks"),
  (0x1F963, "bowl_with_spoon cup_with_straw coconut broccoli pie pretzel cut_of_meat sandwich"),
  (0x1F96B, "canned_food leafy_green mango moon_cake bagel smiling_face_with_three_hearts"),
  (0x1F971, "yawning_face smiling_face_with_tear partying_face woozy_face hot_face cold_face"),
  (0x1F977, "ninja disguised_face face_holding_back_tears pleading_face sari lab_coat goggles"),
  (0x1F97E, "hiking_boot flat_shoe crab lion scorpion turkey unicorn eagle duck bat shark owl"),
  (0x1F98A, "fox_face butterfly deer gorilla lizard rhinoceros shrimp squid giraffe zebra"),
  (0x1F994, "hedgehog sauropod t-rex cricket kangaroo llama peacock hippopotamus parrot raccoon"),
  (0x1F99E, "lobster mosquito microbe badger swan mammoth dodo sloth otter orangutan skunk"),
  (0x1F9A9, "flamingo oyster beaver bison seal guide_dog probing_cane red_hair curly_hair bald"),
  (0x1F9B3, "white_hair bone leg foot tooth superhero supervillain safety_vest"),
  (0x1F9BB, "ear_with_hearing_aid motorized_wheelchair manual_wheelchair mechanical_arm"),
  (0x1F9BF, "mechanical_leg cheese cupcake salt beverage_box garlic onion falafel waffle butter"),
  (0x1F9C9, "mate ice bubble_tea troll person_standing person_kneeling deaf_person monocle_face"),
  (0x1F9D1, "adult child older_adult bearded_person woman_with_headscarf person_in_steamy_room"),
  (0x1F9D7, "climbing person_in_lotus_position mage fairy vampire merperson elf genie zombie"),
  (0x1F9E0, "brain orange_heart billed_cap scarf gloves coat socks red_envelope firecracker"),
  (0x1F9E9, "jigsaw test_tube petri_dish dna compass abacus fire_extinguisher toolbox bricks"),
  (0x1F9F2, "magnet luggage lotion_bottle thread yarn safety_pin teddy_bear broom basket"),
  (0x1F9FB, "roll_of_paper soap sponge receipt nazar_amulet"),
  (0x1FA70, "ballet_shoes one-piece_swimsuit briefs shorts thong_sandal light_blue_heart"),
  (0x1FA76, "grey_heart pink_heart drop_of_blood adhesive_bandage stethoscope x-ray crutch"),
  (0x1FA80, "yo-yo kite parachute boomerang magic_wand pinata nesting_dolls maracas flute"),
  (0x1FA90, "ringed_planet chair razor axe diya_lamp banjo military_helmet accordion long_drum"),
  (0x1FA99, "coin carpentry_saw screwdriver ladder hook mirror window plunger sewing_needle knot"),
  (0x1FAA3, "bucket mouse_trap toothbrush headstone placard rock mirror_ball identification_card"),
  (0x1FAAB, "low_battery hamsa folding_hand_fan hair_pick khanda fly worm beetle cockroach"),
  (0x1FAB4, "potted_plant wood feather lotus coral empty_nest nest_with_eggs hyacinth jellyfish"),
  (0x1FABD, "wing  goose anatomical_heart lungs people_hugging pregnant_man pregnant_person"),
  (0x1FAC5, "person_with_crown"),
  (0x1FACE, "moose donkey blueberries bell_pepper olive flatbread tamale fondue teapot"),
  (0x1FAD7, "pouring_liquid beans jar ginger_root pea_pod     melting_face saluting_face"),
  (0x1FAE2, "face_with_open_eyes_and_hand_over_mouth face_with_peeking_eye"),
  (0x1FAE4, "face_with_diagonal_mouth dotted_line_face biting_lip bubbles shaking_face"),
  (0x1FAF0, "hand_with_index_finger_and_thumb_crossed rightwards_hand leftwards_hand"),
  (0x1FAF3, "palm_down_hand palm_up_hand index_pointing_at_the_viewer heart_hands"),
  (0x1FAF7, "leftwards_pushing_hand rightwards_pushing_hand")]

end SchemaCompiler.Text
